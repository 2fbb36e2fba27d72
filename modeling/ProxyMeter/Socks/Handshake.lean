import ProxyMeter.Gate.Login
import ProxyMeter.Socks.Message
import ProxyMeter.Socks.Wire
import ProxyMeter.Text.Utf8

/-!
# The server's side of the handshake

Each step reads one message of the client and writes the answer to it: the choice of a method, the
login and its status, the request. An unknown command or address form is answered before it fails;
a request for a known target is answered later, when the outcome of the dial is known.
-/

namespace ProxyMeter.Socks

open Session Gate Exchange

/-- The method that a client is to use. -/
def wantedMethod (loginRequired : Bool) : Method :=
  if loginRequired then .usernamePassword else .noAuthentication

/-- Reads the greeting and gives the methods that it offers (the first part of
`negotiate_method`). -/
def readGreeting : Exchange (List UInt8) := do
  let (found, count) ← readPair .shortField
  if found ≠ version then
    fail (.protocol (.version found))
  let offered ← readField count.toNat
  return offered.toList

/-- Chooses the method that the gate asks for, if it is offered (the second part of
`negotiate_method`). -/
def chooseMethod (loginRequired : Bool) (offered : List UInt8) : Exchange Method := do
  let wanted := wantedMethod loginRequired
  if offered.contains wanted.code then
    write (methodChoice wanted.code)
    return wanted
  else
    write (methodChoice noAcceptableMethod)
    if loginRequired then fail (.unauthorized "-")
    else fail (.protocol .noCommonMethod)

/-- Reads the greeting and chooses a method (`negotiate_method`). -/
def negotiate (loginRequired : Bool) : Exchange Method := do
  chooseMethod loginRequired (← readGreeting)

/-- Reads a text after the byte that tells its length (`read_string`). -/
def readText : Exchange String := do
  let length ← readByte
  let bytes ← readField length.toNat
  match Text.ofUtf8? bytes.toList with
  | some s => return s
  | none => fail (.protocol .malformedText)

/-- Reads the login message (`read_credentials`). -/
def readCredentials : Exchange Credentials := do
  let found ← readByte
  if found ≠ loginVersion then
    fail (.protocol (.loginVersion found))
  let username ← readText
  let password ← readText
  return ⟨username, password⟩

/-- Tells the client whether its login was accepted (`send_auth_status`). -/
def sendLoginStatus (accepted : Bool) : Exchange Unit := write (loginStatus accepted)

/-- Sends a reply; without an address to name it names 0.0.0.0:0 (`send_reply`). -/
def sendReply (code : ReplyCode) (bind : Option Endpoint) : Exchange Unit :=
  write (reply code (bind.getD .unspecified))

/-- Reads a target of some form; one of unknown form is answered (the address in `read_request`). -/
def readTarget (form : UInt8) : Exchange Target := do
  if form = v4Form then
    let octets ← readField 4
    let port ← readPort
    return .address ⟨.v4 octets, port⟩
  else if form = v6Form then
    let octets ← readField 16
    let port ← readPort
    return .address ⟨.v6 octets, port⟩
  else if form = domainForm then
    let name ← readText
    let port ← readPort
    return .domain name port
  else
    sendReply .addressTypeNotSupported none
    fail (.protocol (.addressType form))

/-- Reads the request and gives its target; an unknown command is answered (`read_request`). -/
def readRequest : Exchange Target := do
  let header ← readField 4
  if header[0] ≠ version then
    fail (.protocol (.version header[0]))
  if header[1] ≠ connectCommand then
    sendReply .commandNotSupported none
    fail (.protocol (.command header[1]))
  readTarget header[3]

/-- Reads the login message and tells the client whether its login was accepted
(`ProxyServer.handshake`). -/
def authenticate (login : Login) : Exchange Unit := do
  let given ← readCredentials
  let accepted := login.admits given
  sendLoginStatus accepted
  if ¬ accepted then
    fail (.unauthorized given.username)

/-- What comes before the request: method, and login if the method asks for one. -/
def enter (login : Login) : Exchange Unit := do
  let method ← negotiate login.isEnabled
  if method = .usernamePassword then
    authenticate login

/-- The whole handshake (`ProxyServer.handshake`). -/
def handshake (login : Login) : Exchange Target := do
  enter login
  readRequest

end ProxyMeter.Socks
