import ProxyMeter.Text.Numeral
import ProxyMeter.Text.Utf8

/-!
# Percent signs

A percent sign and two hexadecimal digits stand for a byte; any other percent sign stands for
itself.
-/

namespace ProxyMeter.Text

/-- The value of a byte that is a hexadecimal digit. -/
def hexByte? (b : UInt8) : Option UInt8 :=
  (hexValue? (Char.ofNat b.toNat)).map UInt8.ofNat

/-- Bytes with their percent signs decoded. -/
def percentDecoded : List UInt8 → List UInt8
  | sign :: a :: b :: rest =>
    if sign = 0x25 then
      match hexByte? a, hexByte? b with
      | some x, some y => (x * 16 + y) :: percentDecoded rest
      | _, _ => sign :: percentDecoded (a :: b :: rest)
    else sign :: percentDecoded (a :: b :: rest)
  | bytes => bytes

end ProxyMeter.Text
