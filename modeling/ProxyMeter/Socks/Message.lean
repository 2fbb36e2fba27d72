import ProxyMeter.Socks.Address

/-!
# Messages of the handshake

The numbers that messages of RFC 1928 and RFC 1929 are told apart by, and the messages that the
server writes: the choice of a method, the status of a login, and the reply.
-/

namespace ProxyMeter.Socks

/-- Protocol version of greeting, request and reply (`SOCKS_VERSION`). -/
def version : UInt8 := 5

/-- Version of the login message and its status (`AUTH_VERSION`). -/
def loginVersion : UInt8 := 1

/-- The only command served (`CMD_CONNECT`). -/
def connectCommand : UInt8 := 1

/-- How a client is authenticated. -/
inductive Method where
  | noAuthentication
  | usernamePassword
  deriving DecidableEq, Repr

/-- The number of a method (`METHOD_NO_AUTH` and `METHOD_USER_PASS`). -/
def Method.code : Method → UInt8
  | .noAuthentication => 0x00
  | .usernamePassword => 0x02

/-- The answer when no offered method will do (`METHOD_NO_ACCEPTABLE`). -/
def noAcceptableMethod : UInt8 := 0xFF

/-- The outcome told in a reply (`Reply`). -/
inductive ReplyCode where
  | succeeded
  | generalFailure
  | notAllowed
  | networkUnreachable
  | hostUnreachable
  | connectionRefused
  | ttlExpired
  | commandNotSupported
  | addressTypeNotSupported
  deriving DecidableEq, Repr

/-- The number of a reply. -/
def ReplyCode.code : ReplyCode → UInt8
  | .succeeded => 0
  | .generalFailure => 1
  | .notAllowed => 2
  | .networkUnreachable => 3
  | .hostUnreachable => 4
  | .connectionRefused => 5
  | .ttlExpired => 6
  | .commandNotSupported => 7
  | .addressTypeNotSupported => 8

/-- The number of an address form: dotted, by name, or of sixteen octets (`ATYP_IPV4`). -/
def v4Form : UInt8 := 1
/-- The number of the form by name (`ATYP_DOMAIN`). -/
def domainForm : UInt8 := 3
/-- The number of the form of sixteen octets (`ATYP_IPV6`). -/
def v6Form : UInt8 := 4

/-- A number of two bytes, the high byte first. -/
def portBytes (p : UInt16) : List UInt8 :=
  [UInt8.ofNat (p.toNat / 256), UInt8.ofNat (p.toNat % 256)]

/-- An end point: form, octets, port. -/
def Endpoint.encode (e : Endpoint) : List UInt8 :=
  match e.host with
  | .v4 octets => v4Form :: octets.toList ++ portBytes e.port
  | .v6 octets => v6Form :: octets.toList ++ portBytes e.port

/-- The choice of a method. -/
def methodChoice (code : UInt8) : List UInt8 := [version, code]

/-- The status of a login. -/
def loginStatus (accepted : Bool) : List UInt8 :=
  [loginVersion, if accepted then 0 else 1]

/-- A reply with the address it names. -/
def reply (code : ReplyCode) (bind : Endpoint) : List UInt8 :=
  version :: code.code :: 0 :: bind.encode

end ProxyMeter.Socks
