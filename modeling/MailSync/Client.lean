import MailSync.Collection.Orders
import MailSync.Collection.Sync
import MailSync.Collection.Windows
import MailSync.Relocation.Move
import MailSync.ServerCheck
import MailSync.Submission.Send

/-!
# The client

All that can be done with one account. What the protocol has no command for is refused, so
that callers can hide it instead of showing an empty result.
-/
namespace MailSync.Client

/-- What callers may offer to their users. -/
structure Capabilities where
  seenFlag : Bool
  expunge : Bool
  move : Bool
  copy : Bool
  upload : Bool
  trashFolder : Bool
  searchByDate : Bool
  push : Bool
  deletesToTrash : Bool
deriving Repr, DecidableEq

def capabilities : Capabilities where
  seenFlag := true
  expunge := false
  move := true
  copy := false
  upload := false
  trashFolder := true
  searchByDate := false
  push := false
  deletesToTrash := true

def refreshFolders (s : Session) : Operation Bool := Hierarchy.refresh s

def sync (s : Session) (folder : String) : Operation Collection.Stats := Collection.sync s folder

def download (s : Session) (folder id : String) : Operation Collection.DownloadOutcome :=
  Collection.download s folder id

def setFlag (s : Session) (folder : String) (ids : List String) (flag : Flag) (state : Bool) :
    Operation Unit :=
  Collection.setFlag s folder ids flag state

def deleteMessages (s : Session) (folder : String) (ids : List String) :
    Operation DeleteOutcome :=
  Collection.deleteMessages s folder ids

def moveMessages (s : Session) (source target : String) (ids : List String) :
    Operation MoveOutcome :=
  Relocation.moveMessages s source target ids

def send (s : Session) (mime : Bytes) : Operation Unit := Submission.send s mime

/-- One connection serves both directions, so one check does for both. -/
def checkServer (s : Session) : Operation Unit := ServerCheck.check s

def window (folder : String) : Operation Window := Collection.windowOf folder

def setWindow (folder : String) (w : Window) : Operation Unit := Collection.setWindow folder w

def widenWindow (folder : String) : Operation Bool := Collection.widen folder

/-- What the protocol has no command for. -/
inductive Unsupported where
  | search | copy | expunge | fetchMessage | fetchPart | findByMessageId | upload | push
  | markAllRead | deleteAll
deriving Repr, DecidableEq

def Unsupported.text : Unsupported → String
  | search => "search"
  | copy => "copy"
  | expunge => "expunge"
  | fetchMessage => "fetch message"
  | fetchPart => "partial part fetch"
  | findByMessageId => "find by Message-ID"
  | upload => "message upload"
  | push => "push"
  | markAllRead => "mark all as read"
  | deleteAll => "delete all messages"

def refuse {α : Type} (what : Unsupported) : Operation α := throw (.unsupported what.text)

end MailSync.Client
