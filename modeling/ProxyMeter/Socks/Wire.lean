import ProxyMeter.Session.Failure

/-!
# The byte stream to a client

A wire holds what the client has sent and nobody has read yet, cut into the pieces in which it
arrives, and what has been written to the client. Reading takes an exact number of bytes over as
many pieces as it needs; at the end of the stream it takes all that is there and fails. While the
client may still send, a read that runs out of bytes waits instead. A write that finds no room for
all its bytes leaves as many as fit, and then fails or waits.

An exchange is a computation over a wire that can stop; the wire is kept when it does.
-/

namespace ProxyMeter.Socks

open Session

/-- The byte stream to a client. -/
structure Wire where
  /-- What has arrived and is not read, piece by piece. -/
  pieces : List (List UInt8)
  /-- Whether the client has ended its side. -/
  ended : Bool := true
  /-- The fault that ended it, if it did not end in good order. -/
  broken : Option StreamFault := none
  /-- How many more bytes the client's side takes; no limit if absent. -/
  room : Option Nat := none
  /-- The fault of a write that finds no room; it waits if there is none. -/
  overflow : Option StreamFault := some .writeRefused
  /-- What has been written to the client. -/
  written : List UInt8 := []
  deriving Repr

/-- Why an exchange stops. -/
inductive Halt where
  | failed (failure : Failure)
  /-- The client has to send more bytes, or to take some, and may still do so. -/
  | awaiting
  deriving DecidableEq, Repr

/-- A computation over a wire. -/
abbrev Exchange := ExceptT Halt (StateM Wire)

namespace Wire

/-- All bytes that are not read yet. -/
def unread (w : Wire) : List UInt8 := w.pieces.flatten

/-- Why a write stops that finds no room. -/
def blocked (w : Wire) : Halt :=
  match w.overflow with
  | some fault => .failed (.stream fault)
  | none => .awaiting

/-- A byte list in pieces of `size` bytes; one piece if `size` is zero. -/
def cut (size : Nat) (bytes : List UInt8) : List (List UInt8) :=
  if size = 0 ∨ bytes.length ≤ size then [bytes]
  else bytes.take size :: cut size (bytes.drop size)
termination_by bytes.length
decreasing_by simp_all; omega

/-- The first `n` bytes over all pieces, or all of them if they are fewer, and the pieces left. -/
def takeBytes : Nat → List (List UInt8) → List UInt8 × List (List UInt8)
  | _, [] => ([], [])
  | n, piece :: rest =>
    if n ≤ piece.length then (piece.take n, piece.drop n :: rest)
    else
      let (more, left) := takeBytes (n - piece.length) rest
      (piece ++ more, left)

end Wire

namespace Exchange

/-- Runs an exchange and gives its outcome and the wire after it. -/
def runOn {α : Type} (x : Exchange α) (w : Wire) : Except Halt α × Wire :=
  StateT.run (ExceptT.run x) w

/-- Stops with a failure. -/
def fail {α : Type} (failure : Failure) : Exchange α := throw (.failed failure)

/-- Reads exactly `n` bytes. A stream that ends before them gives its own fault, or `short`. -/
def readExactly (n : Nat) (short : StreamFault) : Exchange (Vector UInt8 n) := do
  let w ← get
  let (taken, left) := Wire.takeBytes n w.pieces
  if h : taken.length = n then
    set { w with pieces := left }
    return ⟨taken.toArray, by simpa using h⟩
  else if w.ended then
    set { w with pieces := left }
    fail (.stream (w.broken.getD short))
  else throw .awaiting

/-- Reads a field of known length. -/
def readField (n : Nat) : Exchange (Vector UInt8 n) := readExactly n .shortField

/-- Reads one byte. -/
def readByte : Exchange UInt8 := do
  return (← readExactly 1 .endOfStream)[0]

/-- Reads two bytes. -/
def readPair (short : StreamFault) : Exchange (UInt8 × UInt8) := do
  let bytes ← readExactly 2 short
  return (bytes[0], bytes[1])

/-- Reads a number of two bytes, the high byte first. -/
def readPort : Exchange UInt16 := do
  let (high, low) ← readPair .endOfStream
  return UInt16.ofNat (high.toNat * 256 + low.toNat)

/-- Writes all of `bytes`; if there is not room for all, as many as fit, and stops. -/
def write (bytes : List UInt8) : Exchange Unit := do
  let w ← get
  match w.room with
  | none => set { w with written := w.written ++ bytes }
  | some room =>
    set { w with
      written := w.written ++ bytes.take room
      room := some (room - bytes.length) }
    if room < bytes.length then throw w.blocked

end Exchange

end ProxyMeter.Socks
