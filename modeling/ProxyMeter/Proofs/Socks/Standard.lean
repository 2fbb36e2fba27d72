import ProxyMeter.Socks.Address
import ProxyMeter.Text.Utf8

/-!
# Messages by the byte

The messages of RFC 1928 and RFC 1929, written out: what clients say, and what they are told.
Nothing here is made of the messages that the server writes, so what is proved about these bytes is
not true by the server's own account of them.
-/

namespace ProxyMeter.Socks

/-! ### What clients say -/

/-- A port: its high byte, then its low byte. -/
def portOctets (p : UInt16) : List UInt8 :=
  [UInt8.ofNat (p.toNat / 256), UInt8.ofNat (p.toNat % 256)]

/-- A text after a byte that tells its length. -/
def lengthPrefixed (s : String) : List UInt8 :=
  let bytes := Text.utf8 s
  UInt8.ofNat bytes.length :: bytes

/-- A target: form, address, port. -/
def Target.encode : Target → List UInt8
  | .address ⟨.v4 octets, port⟩ => 0x01 :: octets.toList ++ portOctets port
  | .domain name port => 0x03 :: lengthPrefixed name ++ portOctets port
  | .address ⟨.v6 octets, port⟩ => 0x04 :: octets.toList ++ portOctets port

/-- The forms of targets that requests have. -/
def KnownForm (form : UInt8) : Prop := form = 0x01 ∨ form = 0x04 ∨ form = 0x03

/-- A greeting that offers these methods. -/
def greeting (methods : List UInt8) : List UInt8 := 0x05 :: UInt8.ofNat methods.length :: methods

/-- A login message. -/
def loginMessage (username password : String) : List UInt8 :=
  0x01 :: lengthPrefixed username ++ lengthPrefixed password

/-- A request of any command for a target, with any value in the reserved place. -/
def request (command reserved : UInt8) (target : Target) : List UInt8 :=
  0x05 :: command :: reserved :: target.encode

/-! ### What clients are told -/

/-- The method that a server goes by: with a login, or without one. -/
def methodFor (loginRequired : Bool) : UInt8 := if loginRequired then 0x02 else 0x00

/-- The end point that a reply names if there is none to name: 0.0.0.0:0. -/
def nowhere : Endpoint := ⟨.v4 (.replicate 4 0), 0⟩

/-- A reply with a number for its outcome, and the end point that it names. -/
def replyBytes (outcome : UInt8) (bind : Endpoint) : List UInt8 :=
  0x05 :: outcome :: 0x00 :: (Target.address bind).encode

end ProxyMeter.Socks
