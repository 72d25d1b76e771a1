import MailSync.Account
import MailSync.Json.Shape
import MailSync.ProtocolSettings
import MailSync.Retry

/-!
# Settings

All that a run on one account goes by, and why settings cannot be had.
-/
namespace MailSync

structure AccountSettings where
  email : String
  /-- Made on first use where there is none. -/
  deviceId : Option String
  server : Server
deriving Repr, DecidableEq

structure Settings where
  account : AccountSettings
  protocol : ProtocolSettings
  retry : RetryPolicy
deriving Repr

/-- Why a file cannot be read or written. -/
inductive FileFault where
  | notFound
  | isDirectory
  /-- A file stands where a directory is needed. -/
  | notDirectory
  | alreadyExists
  | notText
  /-- The path holds the character NUL. -/
  | nulInPath
  | nameTooLong
  | other (detail : String)
deriving Repr, DecidableEq

/-- The name of the kind of a fault. -/
def FileFault.title : FileFault → String
  | notFound => "NotFound"
  | isDirectory => "IsADirectory"
  | notDirectory => "NotADirectory"
  | alreadyExists => "AlreadyExists"
  | notText => "InvalidData"
  | nulInPath => "InvalidInput"
  | nameTooLong => "InvalidFilename"
  | other detail => detail

/-- What the system says of a fault. -/
def FileFault.message : FileFault → String
  | notFound => "No such file or directory (os error 2)"
  | isDirectory => "Is a directory (os error 21)"
  | notDirectory => "Not a directory (os error 20)"
  | alreadyExists => "File exists (os error 17)"
  | notText => "stream did not contain valid UTF-8"
  | nulInPath => "file name contained an unexpected NUL byte"
  | nameTooLong => "File name too long (os error 36)"
  | other detail => detail

inductive SettingsError where
  | noDirectory
  | directoryNotCreated (path : String) (cause : FileFault)
  | fileNotRead (path : String) (cause : FileFault)
  | fileNotParsed (path : String) (cause : Json.Fault)
  | fileNotWritten (path : String) (cause : FileFault)
  /-- There is neither a file nor an email address in the environment. -/
  | noAccount
  | notSet (name : String)
  | badPort (text : String)
  | noDeviceId
deriving Repr, DecidableEq

def SettingsError.message : SettingsError → String
  | noDirectory => "Could not determine config directory"
  | directoryNotCreated path _ => s!"Failed to create config directory: {path}"
  | fileNotRead path _ => s!"Failed to read config file: {path}"
  | fileNotParsed path _ => s!"Failed to parse config file: {path}"
  | fileNotWritten path _ => s!"Failed to write config file: {path}"
  | noAccount =>
    "Account settings not found. Create ~/.config/easync/eas-account.json " ++
      "or set EAS_EMAIL, EAS_HOST, EAS_USERNAME and EAS_PASSWORD"
  | notSet name => s!"{name} not set"
  | badPort text => s!"Invalid EAS_PORT: {text}"
  | noDeviceId => "Device id missing; call ensure_device_id first"

/-- The cause behind the message, if there is one. -/
def SettingsError.cause : SettingsError → Option String
  | directoryNotCreated _ cause | fileNotRead _ cause | fileNotWritten _ cause =>
    some cause.message
  | fileNotParsed _ cause => some cause.message
  | notSet _ => some "environment variable not found"
  | noAccount => some "environment variable not found"
  | noDirectory | badPort _ | noDeviceId => none

namespace Settings

/-- The device id, unless it is empty. -/
def deviceId? (s : Settings) : Option String := s.account.deviceId.filter (· ≠ "")

/-- Takes a fresh id for the device, if it has none yet. -/
def withDeviceId (s : Settings) (fresh : String) : Settings :=
  match s.deviceId? with
  | some _ => s
  | none => { s with account := { s.account with deviceId := some fresh } }

/-- The account, without a policy key. It needs a device id. -/
def toAccount (s : Settings) : Except SettingsError Account :=
  match s.deviceId? with
  | some id => .ok ⟨id, s.account.email, s.account.server, s.protocol.version, none⟩
  | none => .error .noDeviceId

/-- The settings that environment variables give. -/
def ofEnvironment (environment : String → Option String) : Except SettingsError Settings := do
  let required (name : String) : Except SettingsError String :=
    match environment name with
    | some v => .ok v
    | none => .error (.notSet name)
  let email ← match environment "EAS_EMAIL" with
    | some v => .ok v
    | none => .error .noAccount
  let host ← required "EAS_HOST"
  let password ← required "EAS_PASSWORD"
  let port ← match environment "EAS_PORT" with
    | none => .ok 443
    | some text =>
      match Text.uint16? text with
      | some port => .ok port
      | none => .error (.badPort text)
  let security := if environment "EAS_INSECURE" = some "1" then .plain else .tls
  let username := (environment "EAS_USERNAME").getD email
  .ok ⟨⟨email, environment "EAS_DEVICE_ID", ⟨host, port, security, .password, username, password⟩⟩,
    .standard, .standard⟩

theorem deviceId?_withDeviceId (s : Settings) {fresh : String} (h : fresh ≠ "") :
    (s.withDeviceId fresh).deviceId? = some (s.deviceId?.getD fresh) := by
  unfold withDeviceId
  cases hs : s.deviceId? with
  | some id => simp [hs]
  | none => simp [deviceId?, h]

end Settings
end MailSync
