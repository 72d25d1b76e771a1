import MailSync.Number.Single
import MailSync.Text.Quoted

/-!
# Accounts

The server of an account, its credentials, and the snapshot of an account that goes with
every request. The snapshot carries the policy key in force when it was taken.
-/
namespace MailSync

inductive Security where
  | plain | tls
deriving Repr, DecidableEq

inductive Credential where
  | password | clientCertificate
deriving Repr, DecidableEq

structure Server where
  host : String
  port : UInt16
  security : Security
  credential : Credential
  username : String
  password : String
deriving Repr, DecidableEq

namespace Server

def scheme (s : Server) : String :=
  match s.security with
  | .plain => "http"
  | .tls => "https"

def defaultPort (s : Server) : UInt16 :=
  match s.security with
  | .plain => 80
  | .tls => 443

/-- The address of the service. The port is left out where it is the scheme's own. -/
def endpoint (s : Server) : String :=
  if s.port = s.defaultPort then s!"{s.scheme}://{s.host}/Microsoft-Server-ActiveSync"
  else s!"{s.scheme}://{s.host}:{s.port.toNat}/Microsoft-Server-ActiveSync"

/-- The server as reports show it, with the password hidden. -/
def description (s : Server) : String :=
  let security := match s.security with
    | .plain => "None"
    | .tls => "SslTls"
  let credential := match s.credential with
    | .password => "Plain"
    | .clientCertificate => "ClientCertificate"
  String.intercalate ", " [s!"ServerSettings \x7b host: {Text.quote s.host}",
    s!"port: {s.port.toNat}", s!"connection_security: {security}", s!"auth_type: {credential}",
    s!"username: {Text.quote s.username}", "password: \"<redacted>\" \x7d"]

end Server

structure Account where
  deviceId : String
  email : String
  server : Server
  protocolVersion : String
  policyKey : Option String
deriving Repr, DecidableEq

namespace Account

def deviceType : String := "Android"

/-- The header value of the policy key; "0" stands for none. -/
def policyHeader (a : Account) : String := a.policyKey.getD "0"

/-- The protocol version as a number; zero if it is none. -/
def versionNumber (a : Account) : Number.Single :=
  match Number.Decimal.read? a.protocolVersion.toList with
  | some d => .ofDecimal d
  | none => .zero

/-- Mail goes inside a document from version 14.0 on. -/
def takesMailDocuments (a : Account) : Bool := a.versionNumber.atLeast .fourteen

end Account
end MailSync
