/-!
# Compensated sums

A sum of floats that keeps what rounding lost beside it. A word of sixty-four bits with more than
fifty-two significant bits is added in two parts, each of which a float holds exactly.
-/

namespace ProxyMeter.Decimal

/-- A running sum and the error it has made so far. -/
structure Compensated where
  sum : Float
  lost : Float

namespace Compensated

/-- Whether a word may have more bits than a float holds. -/
def isWide (n : Int) : Bool := n ≤ -(Nat.pow 2 52 : Nat) || (Nat.pow 2 52 : Nat) ≤ n

/-- The two parts of a word, one of them a multiple of two to the fourteenth. -/
def parts (n : Int) : Float × Float :=
  if isWide n then
    let small := n.tmod 16384
    (Float.ofInt (n - small), Float.ofInt small)
  else (Float.ofInt n, 0)

/-- A sum that is one word so far. -/
def ofWord (n : Int) : Compensated :=
  let (large, small) := parts n
  ⟨large, small⟩

/-- Adds a float. -/
def addFloat (s : Compensated) (x : Float) : Compensated :=
  let sum := s.sum + x
  let lost := if s.sum.abs > x.abs then (s.sum - sum) + x else (x - sum) + s.sum
  ⟨sum, s.lost + lost⟩

/-- Adds a word. -/
def addWord (s : Compensated) (n : Int) : Compensated :=
  let (large, small) := parts n
  if isWide n then (s.addFloat large).addFloat small else s.addFloat large

/-- The sum with what was lost put back. -/
def total (s : Compensated) : Float := s.sum + s.lost

end Compensated

end ProxyMeter.Decimal
