/-!
# Admission by number

A pool admits connections up to a maximum. Slots held under a name give their place back when they
are released; a place may also be given back by hand, and then the count stops at zero.
-/

namespace ProxyMeter.Gate

/-- How many connections are in, of how many at most. -/
structure ConnectionPool where
  limit : Nat
  active : Nat := 0
  deriving DecidableEq, Repr

namespace ConnectionPool

/-- One more connection, if there is a place for it (`ConnectionPool.add_connection`). -/
def enter? (p : ConnectionPool) : Option ConnectionPool :=
  if p.active < p.limit then some { p with active := p.active + 1 } else none

/-- One connection fewer, or none fewer at zero (`ConnectionPool.remove_connection`). -/
def leave (p : ConnectionPool) : ConnectionPool := { p with active := p.active - 1 }

end ConnectionPool

/-- A pool and the names under which slots of it are held (`ConnectionSlot`). -/
structure Slots where
  pool : ConnectionPool
  held : List Int := []
  deriving Repr

namespace Slots

/-- Takes a slot and keeps it under a name (`ConnectionPool.try_acquire`). A slot already held under
the name is given back after the new one is taken. -/
def acquire (s : Slots) (name : Int) : Bool × Slots :=
  match s.pool.enter? with
  | none => (false, s)
  | some pool =>
    if s.held.contains name then (true, { s with pool := pool.leave })
    else (true, { pool, held := name :: s.held })

/-- Gives back the slot held under a name, and tells whether there was one (a `ConnectionSlot` is
dropped). -/
def release (s : Slots) (name : Int) : Bool × Slots :=
  if s.held.contains name then
    (true, { pool := s.pool.leave, held := s.held.erase name })
  else (false, s)

/-- Takes a place without a slot (`ConnectionPool.add_connection`). -/
def add (s : Slots) : Bool × Slots :=
  match s.pool.enter? with
  | none => (false, s)
  | some pool => (true, { s with pool })

/-- Gives a place back without a slot (`ConnectionPool.remove_connection`). -/
def remove (s : Slots) : Slots := { s with pool := s.pool.leave }

/-- What can be done at a pool. Slots are kept under names. -/
inductive Action where
  | acquire (name : Int)
  | release (name : Int)
  | add
  | remove
  deriving DecidableEq

/-- A pool with so many places, none of them taken (`ConnectionPool.new`). -/
def vacant (limit : Nat) : Slots := { pool := { limit } }

/-- One action, and its answer. -/
def perform (s : Slots) : Action → Bool × Slots
  | .acquire name => s.acquire name
  | .release name => s.release name
  | .add => s.add
  | .remove => (true, s.remove)

/-- The pool after an action. -/
def after (s : Slots) (a : Action) : Slots := (s.perform a).2

/-- The pool after some actions. -/
def afterAll (s : Slots) (actions : List Action) : Slots := actions.foldl after s

end Slots

end ProxyMeter.Gate
