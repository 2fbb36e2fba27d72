import ProxyMeter.Decimal.Shortest

/-!
# How a decimal fraction is written

A notation says between which orders of magnitude a number is written out; outside of them it has
one digit before the point, if it has more than one at all, and an exponent. A number that is
written out always has a digit after the point.
-/

namespace ProxyMeter.Decimal

/-- Where the point may stand, counted from the first digit, for a number to be written out. -/
structure Layout where
  /-- The point stands to the right of this place. -/
  above : Int
  /-- The point stands at most this far to the right of the first digit. -/
  upTo : Int
  /-- Whether an exponent without a minus has a plus. -/
  signed : Bool
  deriving Repr

/-- The layout of numbers in answers. -/
def Layout.answers : Layout := ⟨-5, 16, true⟩

/-- The layout of numbers among metrics. -/
def Layout.samples : Layout := ⟨-6, 21, false⟩

/-- The text of a decimal fraction with at least one digit. -/
def Scientific.render (layout : Layout) (d : Scientific) : String :=
  let digits := Nat.toDigits 10 d.digits
  let point : Int := digits.length + d.exponent
  let sign := if d.negative then "-" else ""
  let text :=
    if d.digits = 0 then "0.0".toList
    else if point ≤ layout.above ∨ layout.upTo < point then
      let mantissa := match digits with
        | first :: next :: rest => first :: '.' :: next :: rest
        | one => one
      let plus := if layout.signed ∧ 1 ≤ point then ['+'] else []
      mantissa ++ 'e' :: plus ++ (toString (point - 1)).toList
    else if 0 ≤ d.exponent then
      digits ++ List.replicate d.exponent.toNat '0' ++ ['.', '0']
    else if 0 < point then
      digits.take point.toNat ++ '.' :: digits.drop point.toNat
    else '0' :: '.' :: List.replicate (-point).toNat '0' ++ digits
  sign ++ String.ofList text

end ProxyMeter.Decimal
