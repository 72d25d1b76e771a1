import MailSync.Error
import MailSync.Folder
import MailSync.Message

/-!
# Calls to a mailbox

What a mailbox can be asked to read or write: extras of the account and of its folders,
the folders, and their messages. A mailbox is anything that answers these calls.
-/
namespace MailSync.Mailbox

inductive Call where
  | extra (key : String)
  /-- No value removes the extra. -/
  | setExtra (key : String) (value : Option String)
  /-- Puts folders in; one that is there gets a new record and keeps what it holds. -/
  | createFolders (folders : List FolderRecord)
  /-- Takes folders out with all that they hold. -/
  | deleteFolders (ids : List String)
  /-- Does nothing if there is no such folder. -/
  | changeFolder (id name : String) (role : FolderRole)
  | folderIds
  | folder (id : String)
  | folders
  | folderExtra (folder key : String)
  /-- Fails if there is no such folder. -/
  | setFolderExtra (folder key : String) (value : Option String)
  /-- Fails if there is no such folder. -/
  | saveMessage (folder : String) (message : Message) (state : DownloadState)
  | message (folder id : String)
  | messageIds (folder : String)
  | destroyMessages (folder : String) (ids : List String)
  /-- Answers whether the message is there. -/
  | setFlag (folder id : String) (flag : Flag) (state : Bool)
  | truncatedIds (folder : String)
  | removeAllMessages (folder : String)
  | wipe
deriving Repr, DecidableEq

namespace Call

abbrev Answer : Call → Type
  | extra _ => Option String
  | setExtra .. => Unit
  | createFolders _ => Unit
  | deleteFolders _ => Unit
  | changeFolder .. => Unit
  | folderIds => List String
  | folder _ => Option FolderRecord
  | folders => List FolderRecord
  | folderExtra .. => Option String
  | setFolderExtra .. => Unit
  | saveMessage .. => Unit
  | message .. => Option StoredMessage
  | messageIds _ => List String
  | destroyMessages .. => Unit
  | setFlag .. => Bool
  | truncatedIds _ => List String
  | removeAllMessages _ => Unit
  | wipe => Unit

/-- Whether a call may change what is stored. -/
def isWrite : Call → Bool
  | extra _ | folderIds | folder _ | folders | folderExtra .. | message .. | messageIds _
  | truncatedIds _ => false
  | _ => true

end Call

/-- Storage that answers calls, one at a time. -/
class Medium (σ : Type) where
  answer (call : Call) : σ → Except StorageError call.Answer × σ

/-- Storage of one of two kinds. -/
instance {σ τ : Type} [Medium σ] [Medium τ] : Medium (σ ⊕ τ) :=
  ⟨fun call s =>
    match s with
    | .inl s => (Medium.answer call s).map id .inl
    | .inr t => (Medium.answer call t).map id .inr⟩

end MailSync.Mailbox
