import MailSync.Network
import MailSync.Text.Base64
import MailSync.Url.Basic

/-!
# Requests over HTTP

Where a command of an account is posted, and the headers that go with it. A server that asks
for a client certificate cannot be spoken to.
-/
namespace MailSync.Http

/-- Reads the address of a server. -/
def endpoint (s : Server) : Except Url.Fault Url :=
  Url.read s.scheme s.defaultPort.toNat (s.endpoint.toList.drop (s.scheme.length + 1))

/-- The address that a command is posted to. -/
def address (a : Account) (r : Request) : Except TransportError Url :=
  match endpoint a.server with
  | .ok url =>
    .ok (url.addQuery ([("Cmd", r.command), ("User", a.server.username),
      ("DeviceId", a.deviceId), ("DeviceType", Account.deviceType)] ++ r.query))
  | .error fault =>
    .error ⟨.unknownHost, s!"invalid server address {a.server.host}: {fault.message}"⟩

/-- As `address`, for servers that take a password. -/
def permittedAddress (a : Account) (r : Request) : Except TransportError Url :=
  match a.server.credential with
  | .clientCertificate => .error ⟨.tls, "client certificate authentication is not available"⟩
  | .password => address a r

def headers (userAgent : String) (a : Account) (r : Request) : List (String × String) :=
  let credentials := a.server.username ++ ":" ++ a.server.password
  [("Authorization", "Basic " ++ Text.base64 (Text.toBytes credentials)),
    ("MS-ASProtocolVersion", a.protocolVersion), ("User-Agent", userAgent),
    ("X-MS-PolicyKey", a.policyHeader), ("Content-Type", r.contentType)]

end MailSync.Http
