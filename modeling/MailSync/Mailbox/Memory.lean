import Std.Data.ExtTreeMap
import MailSync.Mailbox.Call

/-!
# Mailbox in memory

Extras and folders by name, and in each folder its record, its extras and its messages by
id. Lists of ids and folders are in the order of the ids.
-/
namespace MailSync.Mailbox

structure Folder where
  record : FolderRecord
  extras : Std.ExtTreeMap String String
  messages : Std.ExtTreeMap String StoredMessage
deriving DecidableEq

structure Memory where
  extras : Std.ExtTreeMap String String
  folders : Std.ExtTreeMap String Folder
deriving DecidableEq

/-- A map with one key set, or removed where there is no value. -/
def place (m : Std.ExtTreeMap String String) (key : String) :
    Option String → Std.ExtTreeMap String String
  | some value => m.insert key value
  | none => m.erase key

namespace Folder

def new (record : FolderRecord) : Folder := ⟨record, ∅, ∅⟩

def setExtra (f : Folder) (key : String) (value : Option String) : Folder :=
  { f with extras := place f.extras key value }

def save (f : Folder) (message : Message) (state : DownloadState) : Folder :=
  { f with messages := f.messages.insert message.id ⟨message, state⟩ }

def destroy (f : Folder) (ids : List String) : Folder :=
  { f with messages := ids.foldl Std.ExtTreeMap.erase f.messages }

def setFlag (f : Folder) (id : String) (flag : Flag) (state : Bool) : Folder :=
  { f with messages := f.messages.modify id fun m =>
      { m with message := { m.message with flags := m.message.flags.set state flag } } }

def truncatedIds (f : Folder) : List String :=
  (f.messages.toList.filter fun entry => entry.2.state = .truncated).map (·.1)

end Folder

namespace Memory

def empty : Memory := ⟨∅, ∅⟩

/-- Changes a folder, if it is there. -/
def modify (m : Memory) (id : String) (change : Folder → Folder) : Memory :=
  { m with folders := m.folders.modify id change }

/-- Puts a folder in. What it holds stays if it is there already. -/
def create (m : Memory) (record : FolderRecord) : Memory :=
  let put : Option Folder → Option Folder
    | some found => some { found with record }
    | none => some (.new record)
  { m with folders := m.folders.alter record.id put }

def delete (m : Memory) (id : String) : Memory := { m with folders := m.folders.erase id }

def rename (m : Memory) (id name : String) (role : FolderRole) : Memory :=
  m.modify id fun f => { f with record := { f.record with name, role } }

def records (m : Memory) : List FolderRecord := m.folders.toList.map fun entry => entry.2.record

def message? (m : Memory) (folder id : String) : Option StoredMessage :=
  m.folders[folder]?.bind (·.messages[id]?)

/-- Changes a folder that must be there. -/
def require (m : Memory) (id : String) (change : Folder → Folder) :
    Except StorageError Unit × Memory :=
  if id ∈ m.folders then (.ok (), m.modify id change) else (.error (.unknownFolder id), m)

/-- The number of messages in all folders. -/
def messageCount (m : Memory) : Nat :=
  m.folders.toList.foldl (fun n entry => n + entry.2.messages.size) 0

def answer (call : Call) (m : Memory) : Except StorageError call.Answer × Memory :=
  match call with
  | .extra key => (.ok m.extras[key]?, m)
  | .setExtra key value => (.ok (), { m with extras := place m.extras key value })
  | .createFolders records => (.ok (), records.foldl create m)
  | .deleteFolders ids => (.ok (), ids.foldl delete m)
  | .changeFolder id name role => (.ok (), m.rename id name role)
  | .folderIds => (.ok m.folders.keys, m)
  | .folder id => (.ok (m.folders[id]?.map (·.record)), m)
  | .folders => (.ok m.records, m)
  | .folderExtra folder key => (.ok (m.folders[folder]?.bind (·.extras[key]?)), m)
  | .setFolderExtra folder key value => m.require folder (·.setExtra key value)
  | .saveMessage folder message state => m.require folder (·.save message state)
  | .message folder id => (.ok (m.message? folder id), m)
  | .messageIds folder => (.ok ((m.folders[folder]?.map (·.messages.keys)).getD []), m)
  | .destroyMessages folder ids => (.ok (), m.modify folder (·.destroy ids))
  | .setFlag folder id flag state =>
    (.ok (m.message? folder id).isSome, m.modify folder (·.setFlag id flag state))
  | .truncatedIds folder => (.ok ((m.folders[folder]?.map Folder.truncatedIds).getD []), m)
  | .removeAllMessages folder => (.ok (), m.modify folder fun f => { f with messages := ∅ })
  | .wipe => (.ok (), empty)

instance : Medium Memory := ⟨answer⟩

end Memory
end MailSync.Mailbox
