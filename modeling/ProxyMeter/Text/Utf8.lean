/-!
# Text as bytes

The UTF-8 bytes of a text, and the text whose bytes they are. Where bytes are not well-formed, they
are either refused or read with a replacement character for each longest start of a character that
breaks off, and for each byte that starts none.
-/

namespace ProxyMeter.Text

/-- The UTF-8 bytes of a text. -/
def utf8 (s : String) : List UInt8 := s.toUTF8.toList

/-- The text with these UTF-8 bytes, if they are well-formed. -/
def ofUtf8? (bs : List UInt8) : Option String := String.fromUTF8? ⟨bs.toArray⟩

/-- How many bytes a character has that starts with a byte; zero if none starts with it. -/
def sequenceLength (first : UInt8) : Nat :=
  if first < 0x80 then 1
  else if first < 0xC2 then 0
  else if first < 0xE0 then 2
  else if first < 0xF0 then 3
  else if first < 0xF5 then 4
  else 0

/-- Whether a byte may be the second of a character. -/
def mayFollow (first second : UInt8) : Bool :=
  let low : UInt8 := if first = 0xE0 then 0xA0 else if first = 0xF0 then 0x90 else 0x80
  let high : UInt8 := if first = 0xED then 0x9F else if first = 0xF4 then 0x8F else 0xBF
  low ≤ second && second ≤ high

/-- The bytes after the first that belong to its character. -/
def continuation (first : UInt8) (rest : List UInt8) : List UInt8 :=
  let candidates := rest.take (sequenceLength first - 1)
  match candidates with
  | second :: more =>
    if mayFollow first second then second :: more.takeWhile (fun b => 0x80 ≤ b && b ≤ 0xBF) else []
  | [] => []

/-- The characters of bytes, with replacements. -/
def replaced : Nat → List UInt8 → List Char
  | 0, _ => []
  | _, [] => []
  | fuel + 1, first :: rest =>
    let more := continuation first rest
    let char : Char :=
      if more.length + 1 = sequenceLength first then
        ((ofUtf8? (first :: more)).bind (·.toList.head?)).getD '\uFFFD'
      else '\uFFFD'
    char :: replaced fuel (rest.drop more.length)

/-- The text of bytes, with replacements where they are not well-formed. -/
def ofUtf8Lossy (bs : List UInt8) : String := String.ofList (replaced bs.length bs)

end ProxyMeter.Text
