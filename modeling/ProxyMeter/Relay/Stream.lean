import ProxyMeter.Session.Failure

/-!
# Byte streams

A stream is asked to move bytes and either does so at once, is not ready, or fails.
-/

namespace ProxyMeter.Relay

/-- What came of asking a stream. -/
inductive Poll (α : Type) where
  | ready (value : α)
  | pending
  | failed (fault : Session.StreamFault)
  deriving Repr

/-- The bytes that a reader has so far, and how many it can hold. -/
structure Buffer where
  filled : List UInt8
  capacity : Nat
  deriving DecidableEq, Repr

/-- How many bytes a buffer can still take. -/
def Buffer.room (b : Buffer) : Nat := b.capacity - b.filled.length

/-- A buffer with more bytes at its end. -/
def Buffer.append (b : Buffer) (bytes : List UInt8) : Buffer :=
  { b with filled := b.filled ++ bytes }

/-- A two-way stream of bytes. -/
class ByteStream (σ : Type) where
  read : Buffer → σ → Poll Unit × Buffer × σ
  write : List UInt8 → σ → Poll Nat × σ
  flush : σ → Poll Unit × σ
  shutdown : σ → Poll Unit × σ

/-- What a stream can be asked for. A read comes with the buffer as far as it is filled. -/
inductive Request where
  | read (into : Buffer)
  | write (bytes : List UInt8)
  | flush
  | shutdown

/-- What a stream answers. To a read belongs the buffer after it. -/
inductive Answer where
  | read (poll : Poll Unit) (after : Buffer)
  | written (poll : Poll Nat)
  | flushed (poll : Poll Unit)
  | shut (poll : Poll Unit)

section

variable {σ : Type} [ByteStream σ]

/-- The answer of a stream to a request, and the stream after it. -/
def ask (r : Request) (s : σ) : Answer × σ :=
  match r with
  | .read b =>
    let (poll, after, s) := ByteStream.read b s
    (.read poll after, s)
  | .write bytes =>
    let (poll, s) := ByteStream.write bytes s
    (.written poll, s)
  | .flush =>
    let (poll, s) := ByteStream.flush s
    (.flushed poll, s)
  | .shutdown =>
    let (poll, s) := ByteStream.shutdown s
    (.shut poll, s)

/-- The answers of a stream to requests one after the other, and the stream after the last. -/
def askAll : List Request → σ → List Answer × σ
  | [], s => ([], s)
  | r :: rest, s =>
    let (answer, s) := ask r s
    let (answers, s) := askAll rest s
    (answer :: answers, s)

end

end ProxyMeter.Relay
