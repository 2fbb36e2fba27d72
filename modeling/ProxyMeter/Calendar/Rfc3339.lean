import ProxyMeter.Calendar.Instant
import ProxyMeter.Text.Blank
import ProxyMeter.Text.Utf8

/-!
# Reading instants

The strict reader takes the profile of RFC 3339 over bytes: date and time in their fixed places, a
fraction of any number of digits of which nine count, and an offset. Its faults name what is wrong,
and the first one found wins. The lenient reader also takes fewer digits, years with a sign, blanks
between the parts, and the letters UTC for the zone.
-/

namespace ProxyMeter.Calendar

/-- Why a text is no instant. -/
inductive TimeFault where
  | tooShort
  | invalid
  | outOfRange
  | trailing
  deriving DecidableEq, Repr

/-- The words for a fault. -/
def TimeFault.message : TimeFault → String
  | .tooShort => "premature end of input"
  | .invalid => "input contains invalid characters"
  | .outOfRange => "input is out of range"
  | .trailing => "trailing input"

namespace Rfc3339

/-- The value of a byte that is a decimal digit. -/
def digit (b : UInt8) : Except TimeFault Nat :=
  if 0x30 ≤ b.toNat ∧ b.toNat ≤ 0x39 then .ok (b.toNat - 0x30) else .error .invalid

/-- The value of two digits. -/
def twoDigits (a b : UInt8) : Except TimeFault Nat := do
  return (← digit a) * 10 + (← digit b)

/-- Requires a condition. -/
def require (condition : Bool) (fault : TimeFault) : Except TimeFault Unit :=
  if condition then .ok () else .error fault

/-- Whether a byte is a decimal digit. -/
def isDigit (b : UInt8) : Bool := 0x30 ≤ b.toNat && b.toNat ≤ 0x39

/-- Nanoseconds from the digits of a fraction, of which the first nine count. -/
def nanosOf (ds : List UInt8) : Nat :=
  let nine := ds.take 9
  (nine.foldl (fun acc b => acc * 10 + (b.toNat - 0x30)) 0) * Nat.pow 10 (9 - nine.length)

/-- The fraction after a point, and what follows it. -/
def fraction : List UInt8 → Except TimeFault (Nat × List UInt8)
  | 0x2E :: rest =>
    let ds := rest.takeWhile isDigit
    if rest.isEmpty then .error .tooShort
    else if ds.isEmpty then .error .invalid
    else .ok (nanosOf ds, rest.drop ds.length)
  | rest => .ok (0, rest)

/-- The sign of an offset: plus, hyphen, or the minus sign U+2212. -/
def offsetSign : List UInt8 → Except TimeFault (Int × List UInt8)
  | [] => .error .tooShort
  | 0x2B :: rest => .ok (1, rest)
  | 0x2D :: rest => .ok (-1, rest)
  | 0xE2 :: 0x88 :: 0x92 :: rest => .ok (-1, rest)
  | _ => .error .invalid

/-- The minutes of an offset, which end below sixty. -/
def offsetMinutes (a b : UInt8) : Except TimeFault Nat :=
  if isDigit a ∧ isDigit b then
    if 0x36 ≤ a.toNat then .error .outOfRange else twoDigits a b
  else .error .invalid

/-- An offset from universal time in seconds: Z, or sign, hours, `separator`, minutes. -/
def offset (separator : List UInt8 → Except TimeFault (List UInt8)) (bs : List UInt8) :
    Except TimeFault (Int × List UInt8) :=
  match bs with
  | 0x5A :: rest => .ok (0, rest)
  | 0x7A :: rest => .ok (0, rest)
  | _ => do
    let (sign, rest) ← offsetSign bs
    match rest with
    | a :: b :: rest =>
      let hours ← twoDigits a b
      let rest ← separator rest
      match rest with
      | c :: d :: rest =>
        let minutes ← offsetMinutes c d
        return (sign * (hours * 3600 + minutes * 60 : Nat), rest)
      | _ => .error .tooShort
    | _ => .error .tooShort

/-- A colon. -/
def colon : List UInt8 → Except TimeFault (List UInt8)
  | [] => .error .tooShort
  | b :: rest => if b = 0x3A then .ok rest else .error .invalid

/-- The largest offset, in seconds. -/
def largestOffset : Int := (23 * 60 + 59) * 60

/-- The instant of a local date and time at an offset. The second sixty is a leap second. -/
def instantOf (date : Date) (hour minute second nanos : Nat) (offset : Int) : Instant :=
  let leap := second = 60
  let whole := if leap then 59 else second
  { seconds := date.toDays * 86400 + (hour * 3600 + minute * 60 + whole : Nat) - offset
    nanos := nanos + if leap then Instant.second else 0 }

/-- An instant in the strict profile, over bytes. -/
def read (bs : List UInt8) : Except TimeFault Instant :=
  match bs with
  | y1 :: y2 :: y3 :: y4 :: h1 :: m1 :: m2 :: h2 :: d1 :: d2 :: t ::
      a1 :: a2 :: c1 :: b1 :: b2 :: c2 :: s1 :: s2 :: rest => do
    let century ← twoDigits y1 y2
    let year := century * 100 + (← twoDigits y3 y4)
    require (h1 = 0x2D) .invalid
    let month ← twoDigits m1 m2
    require (h2 = 0x2D) .invalid
    let day ← twoDigits d1 d2
    let date : Date := ⟨year, month, day⟩
    require date.isValid .outOfRange
    require (t = 0x54 || t = 0x74 || t = 0x20) .invalid
    let hour ← twoDigits a1 a2
    require (c1 = 0x3A) .invalid
    let minute ← twoDigits b1 b2
    require (c2 = 0x3A) .invalid
    let second ← twoDigits s1 s2
    let (nanos, rest) ← fraction rest
    require (hour < 24 && minute < 60 && second ≤ 60) .outOfRange
    let (shift, rest) ← offset colon rest
    require rest.isEmpty .trailing
    require (-largestOffset ≤ shift && shift ≤ largestOffset) .outOfRange
    return instantOf date hour minute second nanos shift
  | _ => .error .tooShort

/-- An instant in the strict profile. -/
def parse (s : String) : Except TimeFault Instant := read (Text.utf8 s)

/-! ### The lenient reader -/

/-- One to `most` digits after blanks. -/
def number? (most : Nat) (cs : List Char) : Option (Nat × List Char) :=
  let cs := cs.dropWhile Text.isBlank
  let ds := (cs.take most).takeWhile Char.isDigit
  (Text.natural? ds).map fun n => (n, cs.drop ds.length)

/-- A year: up to four digits, or a sign and any number of them. -/
def year? (cs : List Char) : Option (Int × List Char) :=
  match cs.dropWhile Text.isBlank with
  | '-' :: rest => (signed? rest).map fun (n, r) => (-n, r)
  | '+' :: rest => signed? rest
  | rest => (number? 4 rest).map fun (n, r) => ((n : Int), r)
where
  /-- Digits directly after the sign. -/
  signed? (rest : List Char) : Option (Int × List Char) :=
    let ds := rest.takeWhile Char.isDigit
    (Text.natural? ds).map fun n => ((n : Int), rest.drop ds.length)

/-- A mark after blanks. -/
def mark? (c : Char) (cs : List Char) : Option (List Char) :=
  match cs.dropWhile Text.isBlank with
  | d :: rest => if d = c then some rest else none
  | [] => none

/-- The years that a date may have. -/
def isReachable (year : Int) : Bool := -262143 ≤ year && year ≤ 262142

/-- The zone at the end: the letters UTC in any case, or an offset with colons or blanks between
hours and minutes. -/
def zone? (cs : List Char) : Option (Int × List Char) :=
  match cs with
  | u :: t :: c :: rest =>
    if u.toLower = 'u' ∧ t.toLower = 't' ∧ c.toLower = 'c' then some (0, rest) else numeric?
  | _ => numeric?
where
  /-- An offset in digits. -/
  numeric? : Option (Int × List Char) :=
    match cs with
    | [] => none
    | 'Z' :: rest => some (0, rest)
    | 'z' :: rest => some (0, rest)
    | s :: a :: b :: rest =>
      let sign : Option Int :=
        if s = '+' then some 1 else if s = '-' ∨ s = '−' then some (-1) else none
      match rest.dropWhile (fun c => c = ':' || Text.isBlank c) with
      | c :: d :: rest => do
        let hours ← Text.natural? [a, b]
        let minutes ← Text.natural? [c, d]
        let direction ← sign
        let total : Nat := hours * 3600 + minutes * 60
        if minutes < 60 ∧ total < 86400 then some (direction * (total : Int), rest) else none
      | _ => none
    | _ => none

/-- An instant in the lenient form. -/
def parseLenient? (s : String) : Option Instant := do
  let (year, rest) ← year? s.toList
  let rest ← mark? '-' rest
  let (month, rest) ← number? 2 rest
  let rest ← mark? '-' rest
  let (day, rest) ← number? 2 rest
  let rest ← match rest with
    | c :: rest => if c = 'T' ∨ c = 't' ∨ c = ' ' then some rest else none
    | [] => none
  let (hour, rest) ← number? 2 rest
  let rest ← mark? ':' rest
  let (minute, rest) ← number? 2 rest
  let rest ← mark? ':' rest
  let (second, rest) ← number? 2 rest
  let (nanos, rest) ← match rest with
    | '.' :: rest =>
      let ds := rest.takeWhile Char.isDigit
      if ds.isEmpty then none
      else some (nanosOf (ds.map fun c => UInt8.ofNat c.toNat), rest.drop ds.length)
    | rest => some (0, rest)
  let (shift, rest) ← zone? (rest.dropWhile Text.isBlank)
  let date : Date := ⟨year, month, day⟩
  let instant := instantOf date hour minute second nanos shift
  if date.isValid ∧ isReachable year ∧ hour < 24 ∧ minute < 60 ∧ second ≤ 60 ∧
      isReachable (Date.ofDays (instant.seconds / 86400)).year ∧
      (rest.dropWhile Text.isBlank).isEmpty then
    some instant
  else none

end Rfc3339

end ProxyMeter.Calendar
