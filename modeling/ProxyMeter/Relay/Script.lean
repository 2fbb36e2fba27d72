import ProxyMeter.Relay.Stream

/-!
# Scripted streams

A stream that answers from a script, to try out what reads and writes streams. When its script is
over, reads find the end of the stream and writes are accepted whole.
-/

namespace ProxyMeter.Relay

/-- What a scripted stream does when it is read. -/
inductive ReadMove where
  | data (bytes : List UInt8)
  | pending
  | failed (fault : Session.StreamFault)
  deriving Repr

/-- What a scripted stream does when it is written to. -/
inductive WriteMove where
  | accept (most : Nat)
  | pending
  | failed (fault : Session.StreamFault)
  deriving Repr

/-- The moves that a stream has still to make. -/
structure Script where
  reads : List ReadMove
  writes : List WriteMove
  deriving Repr

namespace Script

/-- Takes the next move; data that does not fit stays for the next read. -/
def read (b : Buffer) (s : Script) : Poll Unit × Buffer × Script :=
  match s.reads with
  | [] => (.ready (), b, s)
  | .pending :: rest => (.pending, b, { s with reads := rest })
  | .failed fault :: rest => (.failed fault, b, { s with reads := rest })
  | .data bytes :: rest =>
    let left := bytes.drop b.room
    let reads := if left.isEmpty then rest else .data left :: rest
    (.ready (), b.append (bytes.take b.room), { s with reads })

/-- Takes the next move, which may accept fewer bytes than there are. -/
def write (bytes : List UInt8) (s : Script) : Poll Nat × Script :=
  match s.writes with
  | [] => (.ready bytes.length, s)
  | .pending :: rest => (.pending, { s with writes := rest })
  | .failed fault :: rest => (.failed fault, { s with writes := rest })
  | .accept most :: rest => (.ready (min most bytes.length), { s with writes := rest })

instance : ByteStream Script where
  read := read
  write := write
  flush s := (.ready (), s)
  shutdown s := (.ready (), s)

end Script

end ProxyMeter.Relay
