import MailSync.CommandLine.Run
import MailSync.Json.Reader
import MailSync.Json.Writer
import MailSync.Locks
import MailSync.Mailbox.Form
import MailSync.Shell.Connection
import MailSync.Text.Uuid

/-!
# The host of the command line

Files, the environment and the network as the system has them. The mailbox is held in tables
that are kept in a file, which is written after each operation.
-/
namespace MailSync.Shell

def faultOf : IO.Error → FileFault
  | .noFileOrDirectory .. => .notFound
  | .alreadyExists .. => .alreadyExists
  | .inappropriateType _ 21 _ => .isDirectory
  | .inappropriateType .. => .notDirectory
  | .invalidArgument _ _ "name too long" => .nameTooLong
  | .invalidArgument _ _ "string contains NUL bytes" => .nulInPath
  | e => .other (toString e)

def attempt {α : Type} (act : IO α) : IO (Except FileFault α) := do
  match ← act.toBaseIO with
  | .ok a => return .ok a
  | .error e => return .error (faultOf e)

def readBytes (path : String) : IO (Except FileFault Bytes) :=
  attempt do return (← IO.FS.readBinFile path).data.toList

def readText (path : String) : IO (Except FileFault String) := do
  match ← readBytes path with
  | .error fault => return .error fault
  | .ok bs =>
    match Text.ofBytes? bs with
    | some text => return .ok text
    | none => return .error .notText

def isThere (path : String) : IO Bool := return (← attempt (IO.FS.realPath path)).isOk

/-- The user's directory for configuration. -/
def configHome : IO (Option String) := do
  match ← IO.getEnv "XDG_CONFIG_HOME" with
  | some path => if path.startsWith "/" then return some path
  | none => pure ()
  return (← IO.getEnv "HOME").map (Files.join · ".config")

def files : Files IO where
  home := configHome
  environment name := IO.getEnv name
  exists? := isThere
  readText := readText
  writeText path text := attempt (IO.FS.writeFile path text)
  createDirectory path := attempt (IO.FS.createDirAll path)

def freshId : IO String := return Text.uuid (← IO.getRandomBytes 16).data.toList

/-- The open mailbox, and what goes with it while a command runs. -/
structure Desk where
  path : String
  mailbox : Mailbox.Tables
  locks : Locks
  notices : List Notice

def Desk.empty : Desk := ⟨"", .empty, .free, []⟩

/-- Reads the mailbox kept in a file; one that is not there is empty. -/
def loadMailbox (path : String) : IO (Except StorageError Mailbox.Tables) := do
  let failed := StorageError.medium ("Failed to open database at " ++ Text.quote path)
  match ← readText path with
  | .error .notFound => return .ok .empty
  | .error _ => return .error failed
  | .ok text =>
    match (Json.readDeep text).toOption.bind Json.decode? with
    | some mailbox => return .ok mailbox
    | none => return .error failed

def openMailbox (desk : IO.Ref Desk) (path : String) : IO (Except StorageError Unit) := do
  match ← loadMailbox path with
  | .error e => return .error e
  | .ok mailbox =>
    desk.modify ({ · with path, mailbox })
    return .ok ()

def saveMailbox (desk : IO.Ref Desk) : IO Unit := do
  let d ← desk.get
  IO.FS.writeFile d.path (Json.encode d.mailbox).compact

/-- Carries out one effect. -/
def carryOut (desk : IO.Ref Desk) (settings : ProtocolSettings) : (e : Effect) → IO e.Answer
  | .post account request => post settings account request
  | .ask call =>
    desk.modifyGet fun d =>
      let (answer, mailbox) := d.mailbox.answer call
      (answer, { d with mailbox })
  | .checkCancelled => return false
  | .acquire lock =>
    desk.modifyGet fun d =>
      match d.locks.acquire? lock with
      | some locks => (true, { d with locks })
      | none => (false, d)
  | .release lock => desk.modify fun d => { d with locks := d.locks.release lock }
  | .tell notice => desk.modify fun d => { d with notices := d.notices ++ [notice] }
  | .freshId => freshId

def runProgram {α : Type} (desk : IO.Ref Desk) (settings : ProtocolSettings) :
    Program α → IO α
  | .done a => return a
  | .step e next => do runProgram desk settings (next (← carryOut desk settings e))

def perform {α : Type} (desk : IO.Ref Desk) (settings : ProtocolSettings) (op : Operation α) :
    IO (Except SyncError α × List Notice) := do
  desk.modify ({ · with notices := [] })
  let result ← runProgram desk settings op.run
  saveMailbox desk
  return (result, (← desk.get).notices)

def pause (policy : RetryPolicy) (n : Nat) : IO Unit := do
  let jitter ← if policy.jitter then IO.rand 0 99 else pure 0
  IO.sleep (UInt32.ofNat ((policy.delay n).toNat + jitter))

def host (desk : IO.Ref Desk) : CommandLine.Host IO where
  files := files
  readBytes := readBytes
  print line := IO.println line
  freshId := freshId
  openMailbox := openMailbox desk
  perform := perform desk
  pause := pause

end MailSync.Shell
