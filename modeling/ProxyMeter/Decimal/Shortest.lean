/-!
# The fewest digits that read back

A finite binary fraction has a shortest decimal: of all decimals that round to it the one with the
fewest digits, and of those the nearest. It is found on the grids of multiples of a power of ten,
from coarse to fine: the first grid that has a point in the interval of values that round to the
fraction gives it.
-/

namespace ProxyMeter.Decimal

/-- A decimal fraction, plus or minus `digits * 10 ^ exponent`. -/
structure Scientific where
  negative : Bool := false
  digits : Nat
  exponent : Int
  deriving DecidableEq, Repr

/-- A positive binary fraction `significand * 2 ^ exponent`, and whether the gap to the next lower
one is half as wide as the gap above. -/
structure Binary where
  significand : Nat
  exponent : Int
  narrowBelow : Bool
  deriving DecidableEq, Repr

/-- A quotient of naturals that has a common denominator with others like it. -/
structure Scaled where
  lower : Nat
  value : Nat
  upper : Nat
  denominator : Nat
  deriving Repr

/-- The ends of the interval that rounds to a binary fraction and the fraction itself, in quarters
of its last place. -/
def Binary.scaled (b : Binary) : Scaled :=
  let m := b.significand * 4
  let below := m - if b.narrowBelow then 1 else 2
  let shift := b.exponent - 2
  let up := Nat.pow 2 shift.toNat
  { lower := below * up, value := m * up, upper := (m + 2) * up
    denominator := Nat.pow 2 (-shift).toNat }

/-- Whether `point` is in the interval; its ends belong to it if `closed`. -/
def Scaled.holds (s : Scaled) (closed : Bool) (point : Nat) : Bool :=
  if closed then s.lower ≤ point && point ≤ s.upper else s.lower < point && point < s.upper

/-- The nearest point to the value in the interval among its two neighbours on the grid of multiples
of `10 ^ k`; of two equally near ones the even multiple. -/
def Scaled.onGrid? (s : Scaled) (closed : Bool) (k : Int) : Option Nat :=
  -- Both sides are multiplied by a power of ten that makes the grid one of naturals.
  let up := Nat.pow 10 (-k).toNat
  let unit := Nat.pow 10 k.toNat * s.denominator
  let t : Scaled := ⟨s.lower * up, s.value * up, s.upper * up, s.denominator⟩
  let n := t.value / unit
  let low := t.holds closed (n * unit)
  let high := t.holds closed ((n + 1) * unit)
  if low && high then
    let toLow := t.value - n * unit
    let toHigh := (n + 1) * unit - t.value
    if toLow < toHigh then some n
    else if toHigh < toLow then some (n + 1)
    else if n % 2 = 0 then some n else some (n + 1)
  else if low then some n
  else if high then some (n + 1)
  else none

/-- The first grid with a point in the interval, the grids becoming finer. -/
def Scaled.search (s : Scaled) (closed : Bool) : Nat → Int → Nat × Int
  | 0, k => (0, k)
  | fuel + 1, k =>
    match s.onGrid? closed k with
    | some n => (n, k)
    | none => search s closed fuel (k - 1)

/-- The shortest decimal of a positive binary fraction. -/
def Binary.shortest (b : Binary) : Scientific :=
  let s := b.scaled
  -- A bound on the decimal exponent: the binary length of the value over a little more than three.
  let bits : Int := (Nat.log2 b.significand : Int) + b.exponent + 1
  let top : Int := if bits ≤ 0 then bits / 4 + 1 else bits / 3 + 1
  let (n, k) := s.search (b.significand % 2 = 0) 1200 top
  { digits := n, exponent := k }

/-- A finite float of sixty-four bits without its sign; none for zero. -/
def binaryOf? (x : Float) : Option Binary :=
  let bits : Nat := x.toBits.toNat % Nat.pow 2 63
  let fraction : Nat := bits % Nat.pow 2 52
  let biased : Nat := bits / Nat.pow 2 52
  if biased = 0 then
    if fraction = 0 then none else some ⟨fraction, -1074, false⟩
  else some ⟨Nat.pow 2 52 + fraction, (biased : Int) - 1075, fraction = 0 && 1 < biased⟩

/-- Whether the sign bit of a float is set. -/
def isNegative (x : Float) : Bool := Nat.pow 2 63 ≤ x.toBits.toNat

/-- The shortest decimal of a finite float. -/
def shortest (x : Float) : Scientific :=
  match binaryOf? x with
  | none => ⟨isNegative x, 0, 0⟩
  | some b => { b.shortest with negative := isNegative x }

/-- The float nearest to a decimal fraction. -/
def Scientific.toFloat (d : Scientific) : Float :=
  let magnitude :=
    if d.exponent < 0 then Float.ofScientific d.digits true (-d.exponent).toNat
    else Float.ofScientific d.digits false d.exponent.toNat
  if d.negative then -magnitude else magnitude

end ProxyMeter.Decimal
