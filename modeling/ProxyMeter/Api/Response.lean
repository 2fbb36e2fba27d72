/-!
# Responses

Every response may be read from anywhere, and says so in its headers. A preflight names what is
allowed and has no content.
-/

namespace ProxyMeter.Api

/-- What is sent back. -/
structure Response where
  status : Nat
  contentType : Option String := none
  body : String := ""
  /-- The length of the content, if it is told; it is kept when the content is left out. -/
  length : Option Nat := none
  /-- Names the methods that the path has. -/
  namesMethods : Bool := false
  /-- Answers what is allowed, not the request itself. -/
  isPreflight : Bool := false
  deriving DecidableEq, Repr

namespace Response

/-- A response with content. -/
def content (status : Nat) (contentType body : String) : Response :=
  { status, contentType := some contentType, body, length := some body.utf8ByteSize }

/-- The path is not known. -/
def notFound : Response := { status := 404 }

/-- The path is known and has no such method. -/
def methodNotAllowed : Response := { status := 405, length := some 0, namesMethods := true }

/-- What is allowed, on a known path or an unknown one. -/
def preflight (known : Bool) : Response :=
  { status := 200, isPreflight := true, namesMethods := known,
    length := if known then some 0 else none }

/-- The response without its content. -/
def withoutBody (r : Response) : Response := { r with body := "" }

/-- The headers, by name. -/
def headers (r : Response) : List (String × String) :=
  (if r.isPreflight then
    [("access-control-allow-headers", "*"), ("access-control-allow-methods", "*")] else []) ++
  [("access-control-allow-origin", "*")] ++
  (if r.isPreflight then [] else [("access-control-expose-headers", "*")]) ++
  (if r.namesMethods then [("allow", "GET,HEAD")] else []) ++
  (r.length.toList.map fun n => ("content-length", toString n)) ++
  (r.contentType.toList.map fun t => ("content-type", t)) ++
  [("vary", "origin, access-control-request-method, access-control-request-headers")]

end Response

end ProxyMeter.Api
