import ProxyMeter.Gate.Calls

/-!
# A limiter that requests share

A request reads the clock first and gets to the limiter later, so that requests may come to their
turns in another order than they read the clock.

`SharedLimiter.step` is what may happen next, in any order.
-/

namespace ProxyMeter.Gate

variable {α : Type} [Tokens α]

/-- A limiter (`RateLimiter`) with the requests that share it. -/
structure SharedLimiter (α : Type) where
  clock : Int
  limiter : RateLimiter α
  /-- The requests that have read the clock and wait for their turns. -/
  waiting : List Request := []
  /-- The requests that have had their turns, the latest last. -/
  calls : List Call := []

/-- What can happen at a limiter that is shared. Requests that wait are named by their places. -/
inductive SharedLimiter.Action where
  | pass (nanos : Nat)
  /-- A request reads the clock. -/
  | arrive (client : String)
  /-- A request gets its turn at the limiter. -/
  | turn (n : Nat)

namespace SharedLimiter

/-- A new limiter before the first request. -/
def start (rate : Nat) (clock : Int) : SharedLimiter α := { clock, limiter := .fresh rate }

/-- One step, if it is possible. -/
def step (s : SharedLimiter α) : Action → Option (SharedLimiter α)
  | .pass nanos => some { s with clock := s.clock + nanos }
  | .arrive client => some { s with waiting := s.waiting ++ [⟨client, s.clock⟩] }
  | .turn n => (s.waiting[n]?).map fun r => { s with
      limiter := s.limiter.after r
      waiting := s.waiting.eraseIdx n
      calls := s.calls ++ [s.limiter.call r] }

/-- Some steps one after the other, if each is possible in its turn. -/
def run (s : SharedLimiter α) (actions : List Action) : Option (SharedLimiter α) :=
  actions.foldlM step s

/-- The calls of one client. -/
def callsOf (client : String) (s : SharedLimiter α) : List Call :=
  s.calls.filter (·.client == client)

end SharedLimiter
end ProxyMeter.Gate
