import MailSync.Client
import MailSync.CommandLine.Arguments
import MailSync.Retry
import MailSync.Settings.Directory

/-!
# Running a command

What each command does with an account and its mailbox, and what it prints. Commands that
speak to the server are retried as the settings say. A host carries out what a command needs
of the world.
-/
namespace MailSync.CommandLine

/-- What a host offers a command. -/
structure Host (m : Type → Type) where
  files : Files m
  readBytes : String → m (Except FileFault Bytes)
  print : String → m Unit
  freshId : m String
  /-- Opens the mailbox kept in a file, or a new one. -/
  openMailbox : String → m (Except StorageError Unit)
  /-- Runs an operation on the open mailbox, and tells what the listener heard. -/
  perform : {α : Type} → ProtocolSettings → Operation α → m (Except SyncError α × List Notice)
  /-- Waits before another attempt. -/
  pause : RetryPolicy → Nat → m Unit

inductive Error where
  | settings (cause : SettingsError)
  | notOpened (cause : StorageError)
  | notRead (path : String) (cause : FileFault)
  | foldersNotRefreshed
  | failed (cause : SyncError)
deriving Repr, DecidableEq

namespace Error

/-- The message with all that caused it. -/
def message : Error → String
  | settings cause => cause.message ++ ((cause.cause.map (": " ++ ·)).getD "")
  | notOpened cause => cause.message
  | notRead path cause => s!"Failed to read {path}: {cause.message}"
  | foldersNotRefreshed => "Folder sync failed; see log for details"
  | failed (.storage (.windowNotStored folder cause)) =>
    (StorageError.windowNotStored folder cause).message ++ ": " ++ cause.message
  | failed cause => cause.message

end Error

def databaseFile : String := "easync.db"

/-- Text with blanks behind it up to a width. -/
def pad (width : Nat) (s : String) : String := s.pushn ' ' (width - s.length)

def folderLine (f : FolderRecord) : String :=
  s!"{pad 24 f.id} {pad 8 f.role.name} {f.name}"

def messageLine (m : Message) : String := m.id ++ "  " ++ m.subject.getD "(no subject)"

def statsLine (s : Collection.Stats) (reported : Nat) : String :=
  s!"{s.added} added, {s.removed} removed, {s.flagsChanged} flag changes, " ++
    s!"{s.truncated} partial ({reported} reported)"

def downloadLine (id : String) : Collection.DownloadOutcome → String
  | .alreadyComplete => s!"{id} is already complete"
  | .downloaded m => s!"Downloaded {m.id} ({(m.mime.getD []).length} bytes)"
  | .discarded => s!"{id} is gone from the server"

/-- The messages that notices tell of. -/
def downloads (notices : List Notice) : List Message :=
  notices.filterMap fun notice =>
    match notice with
    | .downloaded _ m => some m
    | _ => none

section
variable {m : Type → Type} [Monad m] {α : Type} (host : Host m) (settings : Settings)

abbrev Run (m : Type → Type) := ExceptT Error m

def ofSettings (op : ExceptT SettingsError m α) : Run m α :=
  ExceptT.mk do
    match ← op.run with
    | .ok a => pure (.ok a)
    | .error e => pure (.error (.settings e))

/-- Runs an operation once. -/
def once (op : Operation α) : Run m α :=
  ExceptT.mk do
    match (← host.perform settings.protocol op).1 with
    | .ok a => pure (.ok a)
    | .error e => pure (.error (.failed e))

/-- One attempt: what it told is printed and counted, whatever it comes to. -/
def attempt (op : Operation α) : StateT Nat m (Except SyncError α) := do
  let (result, notices) ← host.perform settings.protocol op
  for message in downloads notices do
    host.print (messageLine message)
  modify (· + (downloads notices).length)
  pure result

/-- Runs an operation with retries. Counts the messages told of. -/
def retried (op : Operation α) : Run m (α × Nat) :=
  ExceptT.mk do
    let pause (n : Nat) : StateT Nat m Unit := host.pause settings.retry n
    match ← (retry settings.retry pause (attempt host settings op)).run 0 with
    | (.ok a, count) => pure (.ok (a, count))
    | (.error e, _) => pure (.error (.failed e))

def execute (s : Session) : Command → Run m Unit
  | .check => do
    discard (retried host settings (Client.checkServer s))
    host.print "Server settings OK"
  | .folders => do
    let (succeeded, _) ← retried host settings (Client.refreshFolders s)
    if ¬succeeded then throw .foldersNotRefreshed
    for folder in ← once host settings (Operation.ask .folders) do
      host.print (folderLine folder)
  | .sync folder => do
    let (stats, count) ← retried host settings (Client.sync s folder)
    host.print (statsLine stats count)
  | .download folder id => do
    let (outcome, _) ← retried host settings (Client.download s folder id)
    host.print (downloadLine id outcome)
  | .more folder => do
    if ← once host settings (Client.widenWindow folder) then
      let window ← once host settings (Client.window folder)
      host.print s!"Sync window for {folder} is now {window.title}"
    else host.print s!"{folder} already syncs all messages"
  | .send file => do
    match ← host.readBytes file with
    | .error cause => throw (.notRead file cause)
    | .ok mime =>
      discard (retried host settings (Client.send s mime))
      host.print s!"Sent {file}"

end

section
variable {m : Type → Type} [Monad m] (host : Host m)

/-- The settings, with a device id that is made and kept if there is none yet. -/
def settingsWithId : Run m Settings := do
  discard (ofSettings host.files.prepare)
  let stored ← ofSettings host.files.loadSettings
  if stored.deviceId?.isSome then return stored
  let settings := stored.withDeviceId (← host.freshId)
  ofSettings (host.files.saveSettings settings)
  return settings

def databasePath (chosen : Option String) : Run m String := do
  match chosen with
  | some path => return path
  | none => return Files.join (← ofSettings host.files.directory) databaseFile

/-- The session that settings call for. -/
def session (settings : Settings) : Except SettingsError Session := do
  .ok ⟨← settings.toAccount, settings.protocol, .all, true⟩

/-- Runs the command that arguments ask for. -/
def run (arguments : Arguments) : Run m Unit := do
  let settings ← settingsWithId host
  let path ← databasePath host arguments.database
  match ← host.openMailbox path with
  | .error cause => throw (.notOpened cause)
  | .ok () =>
    match session settings with
    | .error e => throw (.settings e)
    | .ok s => execute host settings s arguments.command

end
end MailSync.CommandLine
