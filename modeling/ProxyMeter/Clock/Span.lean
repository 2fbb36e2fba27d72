/-!
# Spans of time

A span is a count of nanoseconds. It is written in the largest of the units second, millisecond,
microsecond and nanosecond that it reaches, with a decimal fraction that has no trailing zero.
-/

namespace ProxyMeter.Clock

/-- A length of time in nanoseconds. -/
structure Span where
  nanos : Nat
  deriving DecidableEq, Repr

namespace Span

/-- A span of whole seconds. -/
def ofSeconds (n : Nat) : Span := ⟨n * 1000000000⟩

/-- A span of whole milliseconds. -/
def ofMillis (n : Nat) : Span := ⟨n * 1000000⟩

/-- The digits of `n` in exactly `width` places, less the zeros at their end. -/
def fractionDigits (width n : Nat) : List Char :=
  let digits := Nat.toDigits 10 n
  let all := List.replicate (width - digits.length) '0' ++ digits
  (all.reverse.dropWhile (· == '0')).reverse

/-- A count of units of `10 ^ width` nanoseconds, with its fraction. -/
def decimal (width : Nat) (n : Nat) : String :=
  let fraction := fractionDigits width (n % Nat.pow 10 width)
  let whole := toString (n / Nat.pow 10 width)
  if fraction.isEmpty then whole else whole ++ "." ++ String.ofList fraction

/-- The text of a span, such as 10s, 200ms or 1.5µs. -/
def render (s : Span) : String :=
  if 1000000000 ≤ s.nanos then decimal 9 s.nanos ++ "s"
  else if 1000000 ≤ s.nanos then decimal 6 s.nanos ++ "ms"
  else if 1000 ≤ s.nanos then decimal 3 s.nanos ++ "µs"
  else decimal 0 s.nanos ++ "ns"

end Span

end ProxyMeter.Clock
