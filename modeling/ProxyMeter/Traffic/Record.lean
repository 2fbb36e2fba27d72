import ProxyMeter.Calendar.Rfc3339
import ProxyMeter.Json.Printer

/-!
# Traffic records

What is known of one relayed session: an event when the session ends, a record when the event has
been normalised, and a row when the record has been stored.
-/

namespace ProxyMeter.Traffic

open Calendar Json

/-- One relayed session (`RawTrafficEvent`). Counts are from the target and to it. -/
structure Event where
  sourceIp : String
  destinationIp : String
  /-- The name the client asked for; empty if it asked by number. -/
  domain : String
  port : UInt16
  /-- When the dial began. -/
  timestamp : Instant
  /-- How long the dial took, in milliseconds. -/
  latencyMs : Int
  bytesIn : Int
  bytesOut : Int
  transport : String
  deriving DecidableEq, Repr

/-- An event and the time it was normalised (`TrafficLog`). -/
structure Record where
  event : Event
  createdAt : Instant
  deriving DecidableEq, Repr

/-- A record and the number under which it is stored (`Model`). -/
structure Row where
  id : Nat
  record : Record
  deriving DecidableEq, Repr

/-- The transport of all relayed sessions (`PROTOCOL_TCP`). -/
def transportTcp : String := "tcp"

/-- The port of a row, in a signed word of thirty-two bits. -/
def Row.port (r : Row) : Int32 := .ofNat r.record.event.port.toNat

/-- The members of an event with its port in some form, in the order in which they are written. -/
def Event.membersWith (port : Value) (e : Event) : List (String × Value) :=
  [("source_ip", .text e.sourceIp), ("destination_ip", .text e.destinationIp),
    ("domain", .text e.domain), ("port", port),
    ("timestamp", .text e.timestamp.render), ("latency_ms", .int e.latencyMs),
    ("bytes_in", .int e.bytesIn), ("bytes_out", .int e.bytesOut),
    ("protocol", .text e.transport)]

/-- The members of an event. -/
def Event.members (e : Event) : List (String × Value) := e.membersWith (.nat e.port.toNat)

/-- The members of a record with its port in some form: those of its event and the time it was
normalised. -/
def Record.membersWith (port : Value) (r : Record) : List (String × Value) :=
  r.event.membersWith port ++ [("created_at", .text r.createdAt.render)]

/-- The members of a record. -/
def Record.members (r : Record) : List (String × Value) := r.membersWith (.nat r.event.port.toNat)

/-- A record in JSON. -/
def Record.toJson (r : Record) : Value := .record r.members

/-- A row in JSON. -/
def Row.toJson (r : Row) : Value :=
  .record (("id", .nat r.id) :: r.record.membersWith (.int r.port.toInt))

end ProxyMeter.Traffic
