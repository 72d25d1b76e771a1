import MailSync.Json.Reader
import MailSync.Json.Writer
import MailSync.Settings.Form

/-!
# The settings directory

Settings are kept in a directory of their own below the user's directory for configuration.
Where there is no settings file, the environment gives the settings. Nothing here knows how
files are kept; a host offers what is needed of them.
-/
namespace MailSync

/-- What a host offers of its files and its environment. -/
structure Files (m : Type → Type) where
  /-- The user's directory for configuration. -/
  home : m (Option String)
  environment : String → m (Option String)
  exists? : String → m Bool
  readText : String → m (Except FileFault String)
  writeText : String → String → m (Except FileFault Unit)
  /-- Creates a directory with all that it lies in. -/
  createDirectory : String → m (Except FileFault Unit)

namespace Files

/-- A path below a directory. An absolute one stands for itself. -/
def join (directory name : String) : String :=
  if name.startsWith "/" then name
  else if directory.endsWith "/" then directory ++ name
  else directory ++ "/" ++ name

def appDirectory : String := "easync"

def accountFile : String := "eas-account.json"

variable {m : Type → Type} [Monad m] (files : Files m)

def directory? : m (Option String) := do
  return (← files.home).map (join · appDirectory)

def path? (name : String) : m (Option String) := do
  return (← files.directory?).map (join · name)

def isThere (name : String) : m Bool := do
  match ← files.path? name with
  | some path => files.exists? path
  | none => return false

def directory : ExceptT SettingsError m String := do
  match ← files.directory? with
  | some path => return path
  | none => throw .noDirectory

/-- The directory, created if need be. -/
def prepare : ExceptT SettingsError m String := do
  let path ← files.directory
  match ← files.createDirectory path with
  | .ok () => return path
  | .error cause => throw (.directoryNotCreated path cause)

/-- Reads a file of a shape. -/
def readJson (shape : Json.Shape) (path : String) : ExceptT SettingsError m Json := do
  match ← files.readText path with
  | .error cause => throw (.fileNotRead path cause)
  | .ok text =>
    match Json.read shape text with
    | .ok j => return j
    | .error cause => throw (.fileNotParsed path cause)

def writeJson (path : String) (j : Json) : ExceptT SettingsError m Unit := do
  match ← files.writeText path j.pretty with
  | .ok () => return ()
  | .error cause => throw (.fileNotWritten path cause)

/-- Reads a file of the directory. -/
def load (shape : Json.Shape) (name : String) : ExceptT SettingsError m Json := do
  files.readJson shape (join (← files.directory) name)

/-- Writes a file of the directory. -/
def save (name : String) (j : Json) : ExceptT SettingsError m Unit := do
  files.writeJson (join (← files.prepare) name) j

/-- Reads settings from a file. -/
def readSettings (path : String) : ExceptT SettingsError m Settings := do
  match Json.decode? (← files.readJson Settings.shape path) with
  | some s => return s
  | none => throw (.fileNotParsed path .mismatch)

/-- The variables that settings are taken from. -/
def settingNames : List String :=
  ["EAS_EMAIL", "EAS_HOST", "EAS_PASSWORD", "EAS_PORT", "EAS_INSECURE", "EAS_USERNAME",
    "EAS_DEVICE_ID"]

def environmentSettings : ExceptT SettingsError m Settings := do
  let values ← settingNames.mapM fun name => do return (name, ← files.environment name)
  match Settings.ofEnvironment fun name => (values.lookup name).join with
  | .ok s => return s
  | .error e => throw e

/-- The settings from the file, or else from the environment. -/
def loadSettings : ExceptT SettingsError m Settings := do
  if ← files.isThere accountFile then
    files.readSettings (join (← files.directory) accountFile)
  else files.environmentSettings

def saveSettings (s : Settings) : ExceptT SettingsError m Unit :=
  files.save accountFile (Json.encode s)

end Files
end MailSync
