/-!
# Token bucket per client

A client's bucket holds at most one second's worth of tokens and fills with the time that passes
between its requests. The request that creates a bucket costs nothing; each later one passes if the
refilled bucket holds a whole token, and takes it. A clock that goes back gives no tokens, and its
reading becomes the new start of the next refill.

The rule is written once, for any numbers in which tokens are counted.
-/

namespace ProxyMeter.Gate

/-- Numbers in which tokens are counted. -/
class Tokens (α : Type) extends Add α, Sub α, Mul α, Div α, LT α, LE α where
  /-- A whole number of tokens. -/
  ofNat : Nat → α
  decidableLT : DecidableLT α
  decidableLE : DecidableLE α

/-- Tokens in binary floating point, with its roundings. -/
instance : Tokens Float where
  ofNat n := n.toFloat
  decidableLT := inferInstance
  decidableLE := inferInstance

/-- Tokens as exact fractions. -/
instance : Tokens Rat where
  ofNat n := n
  decidableLT := inferInstance
  decidableLE := inferInstance

namespace Tokens

variable {α : Type} [Tokens α]

local instance : DecidableLT α := decidableLT

local instance : DecidableLE α := decidableLE

/-- The tokens of a whole second at a rate. -/
def ofRate (rate : Nat) : α := ofNat rate

/-- What a bucket holds after some nanoseconds at a rate, capped by a second's worth: the span in
seconds is multiplied into milliseconds, and then by the rate per millisecond. -/
def refill (rate nanos : Nat) (held : α) : α :=
  let seconds : α := ofNat (nanos / 1000000000) + ofNat (nanos % 1000000000) / ofNat 1000000000
  let earned := held + seconds * ofNat 1000 * (ofRate rate / ofNat 1000)
  if ofRate rate < earned then ofRate rate else earned

/-- The bucket without one token, if it holds one. -/
def spend? (held : α) : Option α := if ofNat 1 ≤ held then some (held - ofNat 1) else none

end Tokens

/-- The bucket of one client: what it holds, and the reading of the clock when it was filled
(`TokenBucket`). -/
structure Bucket (α : Type) where
  held : α
  filledAt : Int
  deriving Repr

namespace Bucket

variable {α : Type} [Tokens α]

/-- A full bucket (made in `RateLimiter.allow`). -/
def full (rate : Nat) (now : Int) : Bucket α := ⟨Tokens.ofRate rate, now⟩

/-- One request at a reading of the clock: the refill and the check in `RateLimiter.allow`. -/
def request (rate : Nat) (now : Int) (b : Bucket α) : Bool × Bucket α :=
  let held := Tokens.refill rate (now - b.filledAt).toNat b.held
  match Tokens.spend? held with
  | some left => (true, ⟨left, now⟩)
  | none => (false, ⟨held, now⟩)

end Bucket

/-- The buckets of all clients seen, each client once. -/
structure RateLimiter (α : Type) where
  enabled : Bool
  rate : Nat
  buckets : List (String × Bucket α) := []
  deriving Repr

namespace RateLimiter

variable {α : Type} [Tokens α]

/-- The bucket of a client. -/
def bucket? (l : RateLimiter α) (client : String) : Option (Bucket α) :=
  l.buckets.lookup client

/-- The buckets with one client's bucket put in place. -/
def put (client : String) (b : Bucket α) : List (String × Bucket α) → List (String × Bucket α)
  | [] => [(client, b)]
  | (name, old) :: rest =>
    if name = client then (client, b) :: rest else (name, old) :: put client b rest

/-- One request of a client at a reading of the clock (`RateLimiter.allow`). -/
def allow (l : RateLimiter α) (client : String) (now : Int) : Bool × RateLimiter α :=
  if l.enabled then
    match l.bucket? client with
    | none => (true, { l with buckets := put client (.full l.rate now) l.buckets })
    | some b =>
      let (passed, b') := b.request l.rate now
      (passed, { l with buckets := put client b' l.buckets })
  else (true, l)

/-- How many clients have been seen (`RateLimiter.tracked_clients`). -/
def trackedClients (l : RateLimiter α) : Nat := l.buckets.length

end RateLimiter

end ProxyMeter.Gate
