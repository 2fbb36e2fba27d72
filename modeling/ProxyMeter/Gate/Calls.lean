import ProxyMeter.Gate.RateLimit

/-!
# Calls of a limiter

A limiter is called again and again, by many clients, each time with a reading of the clock.
-/

namespace ProxyMeter.Gate

/-- A request of a client, with its reading of the clock. -/
structure Request where
  client : String
  time : Int

/-- A request that has been answered (`RateLimiter.allow`), and the nanoseconds for which its bucket
was refilled. -/
structure Call extends Request where
  passed : Bool
  credited : Nat

variable {α : Type} [Tokens α]

namespace RateLimiter

/-- A request with its answer. -/
def call (r : Request) (l : RateLimiter α) : Call :=
  { r with
    passed := (l.allow r.client r.time).1
    credited := ((l.bucket? r.client).map fun b => (r.time - b.filledAt).toNat).getD 0 }

/-- The limiter after a request. -/
def after (l : RateLimiter α) (r : Request) : RateLimiter α := (l.allow r.client r.time).2

/-- The limiter after some requests. -/
def afterAll (l : RateLimiter α) (requests : List Request) : RateLimiter α :=
  requests.foldl after l

/-- Some requests, each with its answer. -/
def calls (l : RateLimiter α) : List Request → List Call
  | [] => []
  | r :: rest => l.call r :: calls (l.after r) rest

/-- The calls of one client. -/
def callsOf (client : String) (l : RateLimiter α) (requests : List Request) : List Call :=
  (l.calls requests).filter (·.client == client)

/-- A new limiter that is in use (`RateLimiter.new`). -/
def fresh (rate : Nat) : RateLimiter α := { enabled := true, rate }

end RateLimiter
end ProxyMeter.Gate
