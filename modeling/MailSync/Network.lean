import MailSync.Account
import MailSync.Text.Utf8

/-!
# Requests and replies

One command posted to the server, and what comes back: an HTTP status with a body, or the
reason why nothing came back.
-/
namespace MailSync

inductive NetworkFault where
  | unknownHost | timeout | connectionFailed | tls | io
  /-- The server answered, but asked to come back later. -/
  | serverUnavailable
deriving Repr, DecidableEq

namespace NetworkFault

def text : NetworkFault → String
  | unknownHost => "unknown host"
  | timeout => "timeout"
  | connectionFailed => "connection failed"
  | tls => "tls"
  | io => "io"
  | serverUnavailable => "server unavailable"

def title : NetworkFault → String
  | unknownHost => "UnknownHost"
  | timeout => "Timeout"
  | connectionFailed => "ConnectionFailed"
  | tls => "Tls"
  | io => "Io"
  | serverUnavailable => "ServerUnavailable"

end NetworkFault

structure TransportError where
  fault : NetworkFault
  detail : String
deriving Repr, DecidableEq

def TransportError.message (e : TransportError) : String := s!"{e.fault.text}: {e.detail}"

def wbxmlContent : String := "application/vnd.ms-sync.wbxml"

def mailContent : String := "message/rfc822"

structure Request where
  command : String
  /-- Query parameters beyond the ones that every request has. -/
  query : List (String × String)
  contentType : String
  body : Bytes
  /-- Seconds allowed for the whole exchange. -/
  timeout : UInt64
deriving Repr, DecidableEq

structure Reply where
  status : UInt16
  body : Bytes
deriving Repr, DecidableEq

end MailSync
