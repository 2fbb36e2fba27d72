import ProxyMeter.Socks.Address.Parser
import ProxyMeter.Store.Disk
import ProxyMeter.Text.Percent

/-!
# Where a database is

A database is configured by a path and connected to by an address that is made of it. The address
has to be well-formed; what stands after the scheme and before the first question mark is decoded
and names the file, and what stands after it are parameters. The directory of the path is made
before the connection.
-/

namespace ProxyMeter.Store

/-- Why a database cannot be opened. -/
inductive OpeningFault where
  | directory (path : String)
  | connection (address : String)
  | migration
  deriving DecidableEq, Repr

/-- The words for a database that cannot be opened. -/
def OpeningFault.message : OpeningFault → String
  | .directory path => "无法创建数据库目录: " ++ path
  | .connection address => "连接数据库失败: " ++ address
  | .migration => "执行数据库迁移失败"

namespace Location

/-- The address of the database at a path (`database_url`). -/
def address (path : String) : String := "sqlite://" ++ path ++ "?mode=rwc"

/-- Whether a step of a path is more than a separator; a point is so only at the front. -/
def isStep (position : Nat) (step : String) : Bool := step ≠ "" && (step ≠ "." || position = 0)

/-- The path that holds a path, as far as its text tells; none for the root and for no path. -/
def parent? (path : String) : Option String :=
  let steps := Text.cut '/' path
  let places := (List.range steps.length).filter fun i => isStep i (steps.getD i "")
  match places.reverse with
  | [] => none
  | [_] => some (if path.startsWith "/" then "/" else "")
  | _ :: previous :: _ => some ("/".intercalate (steps.take (previous + 1)))

/-- Characters that no host may hold. -/
def isForbiddenInHost (c : Char) : Bool :=
  c.toNat = 0 || [' ', '#', '/', ':', '<', '>', '?', '@', '[', '\\', ']', '^', '|'].contains c

/-- Whether a text is a host: an address in brackets, or a name without forbidden characters. -/
def isHost (cs : List Char) : Bool :=
  match cs with
  | '[' :: rest =>
    rest.getLast? = some ']' && (match Socks.Host.parse? rest.dropLast with
      | some (.v6 _) => true
      | _ => false)
  | _ => !cs.any isForbiddenInHost

/-- The part of a text up to a colon outside of brackets, and the text from there. -/
def splitAtColon (inside : Bool) : List Char → List Char × List Char
  | [] => ([], [])
  | c :: rest =>
    if c = ':' ∧ ¬ inside then ([], c :: rest)
    else
      let (front, back) := splitAtColon (c = '[' || (inside && c ≠ ']')) rest
      (c :: front, back)

/-- Whether digits are a port; there may be none. -/
def isPort (cs : List Char) : Bool :=
  cs.isEmpty || (Text.natural? cs).any (· ≤ 65535)

/-- Whether the text between the scheme and the path of an address is well-formed: a user up to the
last at sign, a host, and a port after a colon. A port needs a host. -/
def isAuthority (cs : List Char) : Bool :=
  let server := (cs.reverse.takeWhile (· ≠ '@')).reverse
  let (host, port) := splitAtColon false server
  if cs = ['@'] then false
  else match port with
    | [] => isHost host
    | _ :: digits => !host.isEmpty && isHost host && isPort digits

/-- Whether the address of a path is well-formed. Tabulators and line breaks in it do not count. -/
def isWellFormed (path : String) : Bool :=
  let cs := path.toList.filter fun c => c ≠ '\t' && c ≠ '\n' && c ≠ '\r'
  isAuthority (cs.takeWhile fun c => c ≠ '/' && c ≠ '?' && c ≠ '#')

/-- A text without all copies of a word at its front. -/
def withoutLeading (word : List Char) : Nat → List Char → List Char
  | 0, cs => cs
  | fuel + 1, cs =>
    if !word.isEmpty && word.isPrefixOf cs then withoutLeading word fuel (cs.drop word.length)
    else cs

/-- What a database takes from an address: the path of the file, decoded, and the
parameters as they are written. -/
def decode? (address : String) : Option (String × Option String) :=
  let cs := address.toList
  let cs := withoutLeading "sqlite://".toList cs.length cs
  let cs := withoutLeading "sqlite:".toList cs.length cs
  let file := cs.takeWhile (· ≠ '?')
  let parameters := match cs.drop file.length with
    | _ :: rest => some (String.ofList rest)
    | [] => none
  (Text.ofUtf8? (Text.percentDecoded (Text.utf8 (String.ofList file)))).map (·, parameters)

/-- The disk after a database file at a path has been opened, or made if it was not there. An empty
path stands for a file that is nowhere. -/
def openFile (d : Disk) (address file : String) : Except OpeningFault Disk :=
  let place := Place.ofPath file
  let usable := d.isDirectory place.up && !d.isDirectory place
    && place.names.all Disk.isName
  if file = "" then .ok d
  else if !usable then .error (.connection address)
  else match d.files.lookup place with
    | some .foreign => .error .migration
    | some .database => .ok d
    | none => .ok { d with files := d.files ++ [(place, .database)] }

/-- The disk after the database at a path has been opened. -/
def connect (d : Disk) (path : String) : Except OpeningFault Disk :=
  if !isWellFormed path then .error (.connection (address path))
  else match decode? (address path) with
    | some (file, some "mode=rwc") => openFile d (address path) file
    | _ => .error (.connection (address path))

/-- The disk after the directory of a path has been made and the database at it opened
(`open_database`). -/
def openAt (d : Disk) (path : String) : Except OpeningFault Disk :=
  match parent? path with
  | none => connect d path
  | some "" => connect d path
  | some directory =>
    match d.makeDirectories? directory with
    | none => .error (.directory directory)
    | some d => connect d path

end Location

end ProxyMeter.Store
