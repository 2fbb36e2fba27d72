import ProxyMeter.Socks.Address

/-!
# Reading network addresses

The inverse of the written forms: dotted octets without leading zeros, groups of up to four
hexadecimal digits with at most one pair of colons for a run of zero groups, and end points.
-/

namespace ProxyMeter.Socks

/-- One octet: up to three decimal digits, no leading zero, at most 255. -/
def octet? (cs : List Char) : Option UInt8 :=
  if cs.length ≤ 3 ∧ (cs.length = 1 ∨ cs.head? ≠ some '0') then
    (Text.natural? cs).bind fun n => if n ≤ 255 then some (UInt8.ofNat n) else none
  else none

/-- Four octets in dotted form. -/
def dotted? (cs : List Char) : Option (List UInt8) :=
  match cs.splitOn '.' with
  | [a, b, c, d] => do return [← octet? a, ← octet? b, ← octet? c, ← octet? d]
  | _ => none

/-- One group of up to four hexadecimal digits. -/
def group? (cs : List Char) : Option Nat :=
  if cs.isEmpty ∨ 4 < cs.length then none
  else cs.foldlM (fun acc c => (Text.hexValue? c).map (acc * 16 + ·)) 0

/-- Groups between colons; dotted octets may stand for the last two. -/
def groups? : List (List Char) → Option (List Nat)
  | [] => some []
  | [last] =>
    match dotted? last with
    | some [a, b, c, d] => some [a.toNat * 256 + b.toNat, c.toNat * 256 + d.toNat]
    | _ => (group? last).map ([·])
  | g :: rest => do return (← group? g) :: (← groups? rest)

/-- Groups in colon form; the empty text holds none. -/
def side? (cs : List Char) : Option (List Nat) :=
  if cs.isEmpty then some [] else groups? (cs.splitOn ':')

/-- A text cut at its first pair of colons. -/
def atDoubleColon : List Char → Option (List Char × List Char)
  | ':' :: ':' :: rest => some ([], rest)
  | c :: rest => (atDoubleColon rest).map fun (a, b) => (c :: a, b)
  | [] => none

/-- The eight groups of a sixth version address. -/
def eightGroups? (cs : List Char) : Option (List Nat) :=
  match atDoubleColon cs with
  | none => (groups? (cs.splitOn ':')).filter (·.length = 8)
  | some (left, right) => do
    let front ← side? left
    let back ← side? right
    if front.length + back.length ≤ 7 ∧ ¬ left.contains '.' then
      some (front ++ List.replicate (8 - front.length - back.length) 0 ++ back)
    else none

/-- A list as a vector of the length it should have. -/
def exactly? {α : Type} (n : Nat) (xs : List α) : Option (Vector α n) :=
  if h : xs.length = n then some ⟨xs.toArray, by simp [h]⟩ else none

/-- A host of either version. -/
def Host.parse? (cs : List Char) : Option Host :=
  match dotted? cs with
  | some octets => (exactly? 4 octets).map .v4
  | none => do
    let groups ← eightGroups? cs
    let octets := groups.flatMap fun g => [UInt8.ofNat (g / 256), UInt8.ofNat (g % 256)]
    (exactly? 16 octets).map .v6

/-- A port in decimal digits. -/
def port? (cs : List Char) : Option UInt16 :=
  ((Text.natural? cs).filter (· ≤ 65535)).map UInt16.ofNat

/-- An end point: host, colon, port, with a sixth version host in brackets. -/
def Endpoint.parse? (s : String) : Option Endpoint :=
  match s.toList with
  | '[' :: rest => do
    let inside := rest.takeWhile (· ≠ ']')
    match rest.drop inside.length with
    | ']' :: ':' :: digits =>
      match ← Host.parse? inside with
      | .v6 octets => return ⟨.v6 octets, ← port? digits⟩
      | .v4 _ => none
    | _ => none
  | cs => do
    let front := cs.takeWhile (· ≠ ':')
    match cs.drop front.length with
    | ':' :: digits => return ⟨.v4 (← exactly? 4 (← dotted? front)), ← port? digits⟩
    | _ => none

end ProxyMeter.Socks
