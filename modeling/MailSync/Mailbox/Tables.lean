import MailSync.Calendar.Rfc3339
import MailSync.Mailbox.Call

/-!
# Mailbox in tables

The same contents in four tables, as a relational database keeps them: the account's extras,
the folders, the folders' extras and the messages. A row refers to its folder by id and goes
with it. Roles, dates and states are kept as text and read back from it; a folder without a
parent is read back from any of the forms that mean none. A date whose year has no four-digit
form can be stored and not be read back.
-/
namespace MailSync.Mailbox

structure ExtraRow where
  key : String
  value : String
deriving Repr, DecidableEq

structure FolderRow where
  id : String
  name : String
  role : String
  parent : Option String
deriving Repr, DecidableEq

structure FolderExtraRow where
  folder : String
  key : String
  value : String
deriving Repr, DecidableEq

structure MessageRow where
  folder : String
  id : String
  subject : Option String
  sender : List Address
  recipients : List Address
  cc : List Address
  replyTo : List Address
  received : Option String
  messageClass : Option String
  threadTopic : Option String
  flags : Flags
  mime : Option Bytes
  truncated : Bool
  state : String
deriving Repr, DecidableEq

/-- Rows with one put in. A row with the same key gives way. -/
def upsert {ρ κ : Type} [DecidableEq κ] (key : ρ → κ) (row : ρ) (rows : List ρ) : List ρ :=
  rows.filter (key · ≠ key row) ++ [row]

/-- Rows in the order of a text column. -/
def sortedBy {ρ : Type} (column : ρ → String) (rows : List ρ) : List ρ :=
  rows.mergeSort fun a b => column a ≤ column b

namespace FolderRow

def ofRecord (f : FolderRecord) : FolderRow := ⟨f.id, f.name, f.role.name, f.parent⟩

def record (r : FolderRow) : Except StorageError FolderRecord :=
  match FolderRole.ofName? r.role with
  | some role => .ok (.under r.id r.name role r.parent)
  | none => .error (.unreadableRole r.role r.id)

end FolderRow

namespace MessageRow

def ofMessage (folder : String) (m : Message) (state : DownloadState) : MessageRow where
  folder := folder
  id := m.id
  subject := m.subject
  sender := m.sender
  recipients := m.recipients
  cc := m.cc
  replyTo := m.replyTo
  received := m.received.map Rfc3339.write
  messageClass := m.messageClass
  threadTopic := m.threadTopic
  flags := m.flags
  mime := m.mime
  truncated := m.truncated
  state := state.name

def key (r : MessageRow) : String × String := (r.folder, r.id)

/-- The date of a row, read back from its text. -/
def instant? : Option String → Except StorageError (Option Instant)
  | none => .ok none
  | some text =>
    match Rfc3339.read? text.toList with
    | some i => .ok (some i)
    | none => .error (.unreadableDate text)

def stored (r : MessageRow) : Except StorageError StoredMessage := do
  let received ← instant? r.received
  match DownloadState.ofName? r.state with
  | none => .error (.unreadableState r.state)
  | some state =>
    .ok ⟨{
      id := r.id
      subject := r.subject
      sender := r.sender
      recipients := r.recipients
      cc := r.cc
      replyTo := r.replyTo
      received := received
      messageClass := r.messageClass
      threadTopic := r.threadTopic
      flags := r.flags
      mime := r.mime
      truncated := r.truncated }, state⟩

end MessageRow

structure Tables where
  extras : List ExtraRow
  folders : List FolderRow
  folderExtras : List FolderExtraRow
  messages : List MessageRow
deriving Repr, DecidableEq

namespace Tables

def empty : Tables := ⟨[], [], [], []⟩

def hasFolder (t : Tables) (id : String) : Bool := t.folders.any (·.id = id)

def setExtra (t : Tables) (key : String) : Option String → Tables
  | some value => { t with extras := upsert ExtraRow.key ⟨key, value⟩ t.extras }
  | none => { t with extras := t.extras.filter (·.key ≠ key) }

def create (t : Tables) (record : FolderRecord) : Tables :=
  { t with folders := upsert FolderRow.id (.ofRecord record) t.folders }

/-- Deletes a folder and the rows that refer to it. -/
def delete (t : Tables) (id : String) : Tables :=
  { t with
    folders := t.folders.filter (·.id ≠ id)
    folderExtras := t.folderExtras.filter (·.folder ≠ id)
    messages := t.messages.filter (·.folder ≠ id) }

def rename (t : Tables) (id name : String) (role : FolderRole) : Tables :=
  { t with folders := t.folders.map fun r =>
      if r.id = id then { r with name, role := role.name } else r }

def setFolderExtra (t : Tables) (folder key : String) : Option String → Tables
  | some value =>
    { t with folderExtras :=
        upsert (fun r : FolderExtraRow => (r.folder, r.key)) ⟨folder, key, value⟩ t.folderExtras }
  | none =>
    { t with folderExtras := t.folderExtras.filter fun r => ¬(r.folder = folder ∧ r.key = key) }

def save (t : Tables) (folder : String) (m : Message) (state : DownloadState) : Tables :=
  { t with messages := upsert MessageRow.key (.ofMessage folder m state) t.messages }

def row? (t : Tables) (folder id : String) : Option MessageRow :=
  t.messages.find? fun r => r.folder = folder ∧ r.id = id

def destroy (t : Tables) (folder id : String) : Tables :=
  { t with messages := t.messages.filter fun r => ¬(r.folder = folder ∧ r.id = id) }

def setFlag (t : Tables) (folder id : String) (flag : Flag) (state : Bool) : Tables :=
  { t with messages := t.messages.map fun r =>
      if r.folder = folder ∧ r.id = id then { r with flags := r.flags.set state flag } else r }

/-- The ids of the messages of a folder that pass a test, in order. -/
def idsWhere (t : Tables) (folder : String) (p : MessageRow → Bool) : List String :=
  (sortedBy MessageRow.id (t.messages.filter fun r => r.folder = folder ∧ p r)).map (·.id)

/-- A change that needs its folder to be there. -/
def require (t : Tables) (folder : String) (changed : Tables) : Except StorageError Unit × Tables :=
  if t.hasFolder folder then (.ok (), changed) else (.error (.unknownFolder folder), t)

def answer (call : Call) (t : Tables) : Except StorageError call.Answer × Tables :=
  match call with
  | .extra key => (.ok ((t.extras.find? (·.key = key)).map (·.value)), t)
  | .setExtra key value => (.ok (), t.setExtra key value)
  | .createFolders records => (.ok (), records.foldl create t)
  | .deleteFolders ids => (.ok (), ids.foldl delete t)
  | .changeFolder id name role => (.ok (), t.rename id name role)
  | .folderIds => (.ok ((sortedBy FolderRow.id t.folders).map (·.id)), t)
  | .folder id =>
    match t.folders.find? (·.id = id) with
    | none => (.ok none, t)
    | some r => (some <$> r.record, t)
  | .folders => ((sortedBy FolderRow.id t.folders).mapM FolderRow.record, t)
  | .folderExtra folder key =>
    (.ok ((t.folderExtras.find? fun r => r.folder = folder ∧ r.key = key).map (·.value)), t)
  | .setFolderExtra folder key value => t.require folder (t.setFolderExtra folder key value)
  | .saveMessage folder message state => t.require folder (t.save folder message state)
  | .message folder id =>
    match t.row? folder id with
    | none => (.ok none, t)
    | some r => (some <$> r.stored, t)
  | .messageIds folder => (.ok (t.idsWhere folder fun _ => true), t)
  | .destroyMessages folder ids => (.ok (), ids.foldl (fun t id => t.destroy folder id) t)
  | .setFlag folder id flag state =>
    (.ok (t.row? folder id).isSome, t.setFlag folder id flag state)
  | .truncatedIds folder =>
    (.ok (t.idsWhere folder fun r => r.state = DownloadState.truncated.name), t)
  | .removeAllMessages folder =>
    (.ok (), { t with messages := t.messages.filter (·.folder ≠ folder) })
  | .wipe => (.ok (), empty)

instance : Medium Tables := ⟨answer⟩

end Tables
end MailSync.Mailbox
