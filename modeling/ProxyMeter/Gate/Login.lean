/-!
# User name and password

A login gate either asks for one fixed pair or lets everyone in.
-/

namespace ProxyMeter.Gate

/-- A user name with its password. -/
structure Credentials where
  username : String
  password : String
  deriving DecidableEq, Repr

/-- A gate that asks for `wanted`, or for nothing (`Authenticator`). -/
structure Login where
  wanted : Option Credentials
  deriving DecidableEq, Repr

namespace Login

/-- The gate that lets everyone in (`Authenticator.disabled`). -/
def off : Login := ⟨none⟩

/-- The gate that asks for this pair (`Authenticator.new`). -/
def requiring (username password : String) : Login := ⟨some ⟨username, password⟩⟩

/-- Whether a pair is asked for (`Authenticator.is_enabled`). -/
def isEnabled (gate : Login) : Bool := gate.wanted.isSome

/-- Whether a pair passes: it is the one asked for, or none is (`Authenticator.authenticate`). -/
def admits (gate : Login) (given : Credentials) : Bool :=
  match gate.wanted with
  | none => true
  | some wanted => given.username == wanted.username && given.password == wanted.password

end Login

end ProxyMeter.Gate
