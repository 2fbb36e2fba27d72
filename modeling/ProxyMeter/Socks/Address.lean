import ProxyMeter.Text.Numeral

/-!
# Network addresses

Hosts by number, end points, and the targets a client may ask for. The written form of a sixth
version address leaves out the first of its longest runs of two or more zero groups, and shows an
address that stands for a fourth version one with the dotted form at its end.
-/

namespace ProxyMeter.Socks

/-- A host by number. -/
inductive Host where
  | v4 (octets : Vector UInt8 4)
  | v6 (octets : Vector UInt8 16)
  deriving DecidableEq, Repr

/-- A host and a port. -/
structure Endpoint where
  host : Host
  port : UInt16
  deriving DecidableEq, Repr

/-- What a client asks to be connected to (`TargetAddr`). -/
inductive Target where
  | address (endpoint : Endpoint)
  | domain (name : String) (port : UInt16)
  deriving DecidableEq, Repr

namespace Host

/-- The host 0.0.0.0. -/
def unspecified : Host := .v4 #v[0, 0, 0, 0]

/-- Four octets in dotted form. -/
def dotted (octets : List UInt8) : String :=
  ".".intercalate (octets.map fun b => toString b.toNat)

/-- The eight groups of sixteen octets. -/
def groupsOf : List UInt8 → List Nat
  | a :: b :: rest => (a.toNat * 256 + b.toNat) :: groupsOf rest
  | _ => []

/-- The length of the run of zeros that a list starts with. -/
def zeroRun : List Nat → Nat
  | 0 :: rest => zeroRun rest + 1
  | _ => 0

/-- Start and length of the first longest run of zeros, the list starting at index `i`. -/
def longestZeroRun (i : Nat) : List Nat → Nat × Nat
  | [] => (0, 0)
  | g :: rest =>
    let here := zeroRun (g :: rest)
    let later := longestZeroRun (i + 1) rest
    if later.2 ≤ here then (i, here) else later

/-- Groups separated by colons. -/
def colonGroups (groups : List Nat) : String :=
  ":".intercalate (groups.map Text.hexNatural)

/-- The written form of eight groups. -/
def compressed (groups : List Nat) : String :=
  let (start, length) := longestZeroRun 0 groups
  if 1 < length then
    colonGroups (groups.take start) ++ "::" ++ colonGroups (groups.drop (start + length))
  else colonGroups groups

/-- The written form of a host. -/
def render : Host → String
  | .v4 octets => dotted octets.toList
  | .v6 octets =>
    let bytes := octets.toList
    if bytes.take 12 = [0, 0, 0, 0, 0, 0, 0, 0, 0, 0, 0xFF, 0xFF] then
      "::ffff:" ++ dotted (bytes.drop 12)
    else compressed (groupsOf bytes)

end Host

namespace Endpoint

/-- The end point 0.0.0.0:0. -/
def unspecified : Endpoint := ⟨.unspecified, 0⟩

/-- Host and port, a sixth version host in brackets. -/
def render (e : Endpoint) : String :=
  let host := match e.host with
    | .v4 _ => e.host.render
    | .v6 _ => "[" ++ e.host.render ++ "]"
  host ++ ":" ++ toString e.port.toNat

end Endpoint

namespace Target

/-- The port asked for (`TargetAddr.port`). -/
def port : Target → UInt16
  | .address e => e.port
  | .domain _ p => p

/-- The domain asked for; empty if the target is given by number (`TargetAddr.domain`). -/
def domainName : Target → String
  | .address _ => ""
  | .domain name _ => name

/-- The written form of a target. -/
def render : Target → String
  | .address e => e.render
  | .domain name p => name ++ ":" ++ toString p.toNat

end Target

end ProxyMeter.Socks
