import MailSync.Json.Form
import MailSync.Settings.Basic

/-!
# The JSON form of settings

The shape that a settings file has, and how settings are written and read. What has a default
may be left out. Protocol settings and retry policies are also read from their values in order.
-/
namespace MailSync
open Json (Encode Decode Shape decode? field)

namespace Security

def name : Security → String
  | plain => "none"
  | tls => "ssl_tls"

def ofName? (s : String) : Option Security := [plain, tls].find? (·.name = s)

end Security

namespace Credential

def name : Credential → String
  | password => "plain"
  | clientCertificate => "client_certificate"

def ofName? (s : String) : Option Credential := [password, clientCertificate].find? (·.name = s)

end Credential

instance : Encode Security := ⟨fun s => .string s.name⟩
instance : Decode Security := ⟨fun j => (decode? j).bind Security.ofName?⟩
instance : Encode Credential := ⟨fun c => .string c.name⟩
instance : Decode Credential := ⟨fun j => (decode? j).bind Credential.ofName?⟩

namespace Settings

def small : Shape := .natural UInt32.size

def large : Shape := .natural UInt64.size

def serverShape : Shape :=
  .record [("host", true, .string), ("port", true, .natural UInt16.size),
    ("connection_security", false, .choice ["none", "ssl_tls"]),
    ("auth_type", false, .choice ["plain", "client_certificate"]),
    ("username", true, .string), ("password", true, .string)]

def accountShape : Shape :=
  .record [("email", true, .string), ("device_id", false, .optional .string),
    ("server", true, serverShape)]

def protocolShape : Shape :=
  .record [("protocol_version", false, .string), ("user_agent", false, .string),
    ("max_rounds", false, small), ("connect_timeout_secs", false, large),
    ("command_timeout_secs", false, large), ("initial_sync_timeout_secs", false, large)]

def retryShape : Shape :=
  .record [("max_attempts", false, small), ("initial_delay_ms", false, large),
    ("max_delay_ms", false, large), ("multiplier", false, .float), ("jitter", false, .bool)]

/-- The shape of a settings file. -/
def shape : Shape :=
  .record [("account", true, accountShape), ("protocol", false, protocolShape),
    ("retry", false, retryShape)]

end Settings

instance : Encode Server :=
  ⟨fun s => .object [field "host" s.host, field "port" s.port,
    field "connection_security" s.security, field "auth_type" s.credential,
    field "username" s.username, field "password" s.password]⟩
instance : Decode Server :=
  ⟨fun j => return ⟨← j.get? "host", ← j.get? "port", ← j.getD? "connection_security" .tls,
    ← j.getD? "auth_type" .password, ← j.get? "username", ← j.get? "password"⟩⟩

instance : Encode AccountSettings :=
  ⟨fun a => .object [field "email" a.email, field "device_id" a.deviceId, field "server" a.server]⟩
instance : Decode AccountSettings :=
  ⟨fun j => return ⟨← j.get? "email", ← j.optional? "device_id", ← j.get? "server"⟩⟩

instance : Encode ProtocolSettings :=
  ⟨fun p => .object [field "protocol_version" p.version, field "user_agent" p.userAgent,
    field "max_rounds" p.maxRounds, field "connect_timeout_secs" p.connectTimeout,
    field "command_timeout_secs" p.commandTimeout,
    field "initial_sync_timeout_secs" p.initialTimeout]⟩
instance : Decode ProtocolSettings :=
  ⟨fun j => do
    let j := j.withNames Settings.protocolShape.names
    let d := ProtocolSettings.standard
    return ⟨← j.getD? "protocol_version" d.version, ← j.getD? "user_agent" d.userAgent,
      ← j.getD? "max_rounds" d.maxRounds, ← j.getD? "connect_timeout_secs" d.connectTimeout,
      ← j.getD? "command_timeout_secs" d.commandTimeout,
      ← j.getD? "initial_sync_timeout_secs" d.initialTimeout⟩⟩

instance : Encode RetryPolicy :=
  ⟨fun r => .object [field "max_attempts" r.maxAttempts, field "initial_delay_ms" r.initialDelay,
    field "max_delay_ms" r.maxDelay, field "multiplier" r.multiplier, field "jitter" r.jitter]⟩
instance : Decode RetryPolicy :=
  ⟨fun j => do
    let j := j.withNames Settings.retryShape.names
    let d := RetryPolicy.standard
    return ⟨← j.getD? "max_attempts" d.maxAttempts, ← j.getD? "initial_delay_ms" d.initialDelay,
      ← j.getD? "max_delay_ms" d.maxDelay, ← j.getD? "multiplier" d.multiplier,
      ← j.getD? "jitter" d.jitter⟩⟩

instance : Encode Settings :=
  ⟨fun s => .object [field "account" s.account, field "protocol" s.protocol,
    field "retry" s.retry]⟩
instance : Decode Settings :=
  ⟨fun j => return ⟨← j.get? "account", ← j.getD? "protocol" .standard,
    ← j.getD? "retry" .standard⟩⟩

end MailSync
