import TrafficCapture.Text.Utf8

/-! The proxy's own answers: why a request is refused or given up, and what the client is told. -/

namespace TrafficCapture.Proxy

/-- An answer that the proxy itself makes up. -/
structure Reply where
  status : UInt16
  label : String
  text : String
  deriving DecidableEq, Repr

/-- The answer on the wire. -/
def Reply.bytes (r : Reply) : Bytes :=
  Text.Utf8.encode ("HTTP/1.1 " ++ toString r.status.toNat ++ " " ++ r.label ++ "\r\n" ++
    "Content-Length: " ++ toString r.text.utf8ByteSize ++ "\r\n" ++
    "Connection: close\r\nContent-Type: text/plain\r\n\r\n" ++ r.text)

/-- Why a request is refused before any server is sought. -/
inductive Refusal where
  /-- There is no head, or none that can be read and followed. -/
  | unreadable
  /-- The announced body is too large. -/
  | tooLarge
  | tunnel
  /-- The target is not plain HTTP. -/
  | encrypted
  deriving DecidableEq, Repr

def Refusal.reply : Refusal → Reply
  | .unreadable => ⟨400, "Bad Request", "Unable to parse HTTP request"⟩
  | .tooLarge => ⟨413, "Payload Too Large", "Request body exceeds allowed size"⟩
  | .tunnel => ⟨501, "Not Implemented", "Tunneling is not supported by the capture proxy"⟩
  | .encrypted => ⟨501, "Not Implemented", "Only plain HTTP targets can be captured"⟩

/-- Why an exchange ends before there is a response to relay. -/
inductive Breakdown where
  | unreachable
  /-- The request body grew beyond what is allowed. -/
  | tooLarge
  | notForwarded
  | noResponse
  deriving DecidableEq, Repr

namespace Breakdown

def reply : Breakdown → Reply
  | .unreachable => ⟨502, "Bad Gateway", "Unable to reach upstream server"⟩
  | .tooLarge => Refusal.tooLarge.reply
  | .notForwarded => ⟨400, "Bad Request", "Failed to read request body"⟩
  | .noResponse => ⟨502, "Bad Gateway", "Failed to read response"⟩

/-- The reason that is recorded beside the status of the reply. -/
def reason : Breakdown → String
  | .unreachable => "Unable to reach upstream server"
  | .tooLarge => "Payload Too Large"
  | .notForwarded => "Bad Request"
  | .noResponse => "Failed to read response"

def note : Breakdown → String
  | .unreachable => "Upstream connection failed"
  | .tooLarge | .notForwarded => "Request body could not be forwarded"
  | .noResponse => "No response from upstream"

end Breakdown

end TrafficCapture.Proxy
