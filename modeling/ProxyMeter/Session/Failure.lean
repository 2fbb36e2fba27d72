import ProxyMeter.Clock.Span
import ProxyMeter.Text.Numeral

/-!
# Why a session ends before it relays

Each cause is a constructor; its text is `message`, the metric label it is counted under is
`reason`, and `isGateRejection` tells the verdicts of a gate from faults of the peer, the network
or the protocol.
-/

namespace ProxyMeter.Session

/-- A fault of the byte stream to the client. -/
inductive StreamFault where
  /-- The stream ended inside a field of known length. -/
  | shortField
  /-- The stream ended where a length, a version or a port should start or go on. -/
  | endOfStream
  /-- The stream takes no more bytes. -/
  | writeRefused
  | brokenPipe
  | connectionReset
  | other
  /-- A fault that a foreign component describes in words of its own. -/
  | described (text : String)
  deriving DecidableEq, Repr

/-- A breach of the handshake's rules. -/
inductive ProtocolFault where
  | version (found : UInt8)
  | loginVersion (found : UInt8)
  | command (found : UInt8)
  | addressType (found : UInt8)
  | noCommonMethod
  | malformedText
  | described (text : String)
  deriving DecidableEq, Repr

/-- Why a session ends before it relays (`SessionError`). -/
inductive Failure where
  | admission (limit : Nat)
  | rateLimited (client : String)
  | unauthorized (user : String)
  | forbidden (client : String)
  | dial (target : String) (cause : String)
  | protocol (fault : ProtocolFault)
  | handshakeTimeout (after : Clock.Span)
  | stream (fault : StreamFault)
  deriving DecidableEq, Repr

/-- The metric label of a refused session. -/
inductive RejectReason where
  | admission
  | rateLimit
  | unauthorized
  | forbidden
  | dial
  | protocol
  deriving DecidableEq, Repr

/-- The words for a fault of the stream. -/
def StreamFault.message : StreamFault → String
  | .shortField => "early eof"
  | .endOfStream => "unexpected end of file"
  | .writeRefused => "write zero"
  | .brokenPipe => "broken pipe"
  | .connectionReset => "connection reset"
  | .other => "other error"
  | .described text => text

/-- A byte as it is shown in messages. -/
def shownByte (b : UInt8) : String := "0x" ++ String.ofList (Text.hexByte b)

/-- The words for a breach of the handshake's rules. -/
def ProtocolFault.message : ProtocolFault → String
  | .version b => "不支持的协议版本: " ++ shownByte b
  | .loginVersion b => "不支持的认证子协议版本: " ++ shownByte b
  | .command b => "不支持的命令: " ++ shownByte b
  | .addressType b => "不支持的地址类型: " ++ shownByte b
  | .noCommonMethod => "客户端没有可接受的认证方式"
  | .malformedText => "字段不是合法的 UTF-8"
  | .described text => text

namespace Failure

/-- The words for a failed session. -/
def message : Failure → String
  | .admission limit => s!"连接池已满 (最大 {limit})"
  | .rateLimited client => s!"客户端 {client} 触发限流"
  | .unauthorized user => s!"用户 {user} 认证失败"
  | .forbidden client => s!"客户端 {client} 不在 IP 白名单中"
  | .dial target cause => s!"连接目标 {target} 失败: {cause}"
  | .protocol fault => "SOCKS5 协商失败: " ++ fault.message
  | .handshakeTimeout after => "SOCKS5 握手超时 (" ++ after.render ++ ")"
  | .stream fault => fault.message

/-- The label a failure is counted under (`SessionError.reject_reason`). -/
def reason : Failure → RejectReason
  | .admission _ => .admission
  | .rateLimited _ => .rateLimit
  | .unauthorized _ => .unauthorized
  | .forbidden _ => .forbidden
  | .dial _ _ => .dial
  | .protocol _ | .handshakeTimeout _ | .stream _ => .protocol

/-- Whether a gate gave this verdict, as opposed to a fault on the way
(`SessionError.is_gate_rejection`). -/
def isGateRejection : Failure → Bool
  | .admission _ | .rateLimited _ | .unauthorized _ | .forbidden _ => true
  | _ => false

end Failure

/-- The name of a label as it stands in the metrics. -/
def RejectReason.label : RejectReason → String
  | .admission => "Admission"
  | .rateLimit => "RateLimit"
  | .unauthorized => "Unauthorized"
  | .forbidden => "Forbidden"
  | .dial => "Dial"
  | .protocol => "Protocol"

end ProxyMeter.Session
