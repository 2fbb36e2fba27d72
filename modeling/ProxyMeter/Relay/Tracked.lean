import ProxyMeter.Relay.Stream

/-!
# Tracked streams

A tracked stream is the stream inside it and two counts: the bytes that its successful reads added
to a buffer, and the bytes that its successful writes took.
-/

namespace ProxyMeter.Relay

/-- A stream with the bytes that it brought in and took out (`TrackedStream`). -/
structure Tracked (σ : Type) where
  inner : σ
  bytesIn : UInt64 := 0
  bytesOut : UInt64 := 0

namespace Tracked

variable {σ : Type} [ByteStream σ]

/-- A read, whose growth of the buffer is counted if it succeeds (`TrackedStream.poll_read`). -/
def read (b : Buffer) (t : Tracked σ) : Poll Unit × Buffer × Tracked σ :=
  let (poll, after, inner) := ByteStream.read b t.inner
  let gained := match poll with
    | .ready _ => after.filled.length - b.filled.length
    | _ => 0
  (poll, after, { t with inner, bytesIn := t.bytesIn + UInt64.ofNat gained })

/-- A write, whose accepted bytes are counted if it succeeds (`TrackedStream.poll_write`). -/
def write (bytes : List UInt8) (t : Tracked σ) : Poll Nat × Tracked σ :=
  let (poll, inner) := ByteStream.write bytes t.inner
  let taken := match poll with
    | .ready n => n
    | _ => 0
  (poll, { t with inner, bytesOut := t.bytesOut + UInt64.ofNat taken })

/-- A flush, which counts nothing (`TrackedStream.poll_flush`). -/
def flush (t : Tracked σ) : Poll Unit × Tracked σ :=
  let (poll, inner) := ByteStream.flush t.inner
  (poll, { t with inner })

/-- A shutdown, which counts nothing (`TrackedStream.poll_shutdown`). -/
def shutdown (t : Tracked σ) : Poll Unit × Tracked σ :=
  let (poll, inner) := ByteStream.shutdown t.inner
  (poll, { t with inner })

instance : ByteStream (Tracked σ) where
  read := read
  write := write
  flush := flush
  shutdown := shutdown

end Tracked

end ProxyMeter.Relay
