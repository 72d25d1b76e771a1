import MailSync.Proofs.Mailbox.Folders

/-!
# Sound mailboxes

A mailbox in memory is sound if each folder and each message is filed under its own id, no folder
names the root as its parent, and every message is as it should be, whatever that means. Calls that
put in nothing but such records and messages keep a mailbox sound, and all other calls do so in any
case.
-/
namespace MailSync

namespace FolderRecord

/-- No parent is written as the root: a folder at the top has none. -/
def Normal (r : FolderRecord) : Prop := r.parent ≠ some "" ∧ r.parent ≠ some "0"

instance (r : FolderRecord) : Decidable r.Normal := inferInstanceAs (Decidable (_ ∧ _))

theorem normal_iff {r : FolderRecord} : r.Normal ↔ parentOf r.parent = r.parent := by
  cases hp : r.parent with
  | none => simp [Normal, parentOf, hp]
  | some p => simp [Normal, parentOf, hp, Option.filter_eq_some_iff]

theorem normal_under (id name : String) (role : FolderRole) (parent : Option String) :
    (under id name role parent).Normal :=
  normal_iff.mpr (parentOf_parentOf parent)

end FolderRecord

namespace StoredMessage

/-- A property of stored messages that does not depend on their flags. -/
def IgnoresFlags (P : StoredMessage → Prop) : Prop :=
  ∀ (m : StoredMessage) flags, P m → P { m with message := { m.message with flags } }

/-- The body counts as cut short exactly if the message says so. -/
def Consistent (m : StoredMessage) : Prop := m.state = .truncated ↔ m.message.truncated = true

instance (m : StoredMessage) : Decidable m.Consistent := inferInstanceAs (Decidable (_ ↔ _))

theorem ignoresFlags_consistent : IgnoresFlags Consistent := fun _ _ h => h

end StoredMessage

theorem Message.consistent_downloadState (m : Message) :
    StoredMessage.Consistent ⟨m, m.downloadState⟩ := by
  cases h : m.truncated <;> simp [StoredMessage.Consistent, downloadState, h]

namespace Mailbox

variable {P : StoredMessage → Prop}

/-- A folder that may stand under an id, with messages as they should be. -/
structure Folder.Sound (P : StoredMessage → Prop) (id : String) (f : Folder) : Prop where
  own : f.record.id = id
  normal : f.record.Normal
  messages : ∀ (key : String) stored, f.messages[key]? = some stored →
    stored.message.id = key ∧ P stored

namespace Folder.Sound
variable {id : String} {f : Folder}

theorem new {r : FolderRecord} (h : r.Normal) : (Folder.new r).Sound P r.id where
  own := rfl
  normal := h
  messages key stored hs := by
    rw [show (Folder.new r).messages = ∅ from rfl, Std.ExtTreeMap.getElem?_empty] at hs
    cases hs

/-- A new record under the same id, with a parent as it should be. -/
theorem record (h : f.Sound P id) {r : FolderRecord} (hid : r.id = id) (hr : r.Normal) :
    Folder.Sound P id { f with record := r } :=
  ⟨hid, hr, h.messages⟩

theorem setExtra (h : f.Sound P id) (key : String) (value : Option String) :
    (f.setExtra key value).Sound P id :=
  ⟨h.own, h.normal, h.messages⟩

theorem clear (h : f.Sound P id) : Folder.Sound P id { f with messages := ∅ } where
  own := h.own
  normal := h.normal
  messages key stored hs := by
    rw [Std.ExtTreeMap.getElem?_empty] at hs
    cases hs

theorem save (h : f.Sound P id) {m : Message} {state : DownloadState}
    (hm : P ⟨m, state⟩) : (f.save m state).Sound P id where
  own := h.own
  normal := h.normal
  messages key stored hs := by
    simp only [Folder.save, Std.ExtTreeMap.getElem?_insert, Std.compare_eq_iff_eq] at hs
    split_ifs at hs with hkey
    · obtain rfl := Option.some.inj hs
      exact ⟨hkey, hm⟩
    · exact h.messages key stored hs

theorem destroy (h : f.Sound P id) (ids : List String) : (f.destroy ids).Sound P id where
  own := h.own
  normal := h.normal
  messages key stored hs := by
    rw [Folder.destroy, getElem?_foldl_erase] at hs
    split_ifs at hs
    exact h.messages key stored hs

theorem setFlag (hP : StoredMessage.IgnoresFlags P) (h : f.Sound P id) (which : String)
    (flag : Flag) (state : Bool) : (f.setFlag which flag state).Sound P id where
  own := h.own
  normal := h.normal
  messages key stored hs := by
    simp only [Folder.setFlag, Std.ExtTreeMap.getElem?_modify, Std.compare_eq_iff_eq] at hs
    split_ifs at hs with hkey
    · obtain ⟨old, hold, rfl⟩ := Option.map_eq_some_iff.mp hs
      have hm := h.messages key old (hkey ▸ hold)
      exact ⟨hm.1, hP old _ hm.2⟩
    · exact h.messages key stored hs

end Folder.Sound

/-- A call that puts in only records and messages that may stand in a sound mailbox. -/
def Call.Orderly (P : StoredMessage → Prop) : Call → Prop
  | createFolders rs => ∀ r ∈ rs, r.Normal
  | saveMessage _ m state => P ⟨m, state⟩
  | _ => True

instance [DecidablePred P] : (call : Call) → Decidable (call.Orderly P)
  | .createFolders rs => inferInstanceAs (Decidable (∀ r ∈ rs, r.Normal))
  | .saveMessage _ m state => inferInstanceAs (Decidable (P ⟨m, state⟩))
  | .extra _ | .setExtra .. | .deleteFolders _ | .changeFolder .. | .folderIds | .folder _
  | .folders | .folderExtra .. | .setFolderExtra .. | .message .. | .messageIds _
  | .destroyMessages .. | .setFlag .. | .truncatedIds _ | .removeAllMessages _ | .wipe =>
    isTrue trivial

namespace Memory

/-- Every folder may stand where it is filed. -/
def Sound (P : StoredMessage → Prop) (m : Memory) : Prop :=
  ∀ (id : String) f, m.folders[id]? = some f → f.Sound P id

namespace Sound
variable {m : Memory}

theorem keyed (h : m.Sound P) : m.Keyed := fun id f hf => (h id f hf).own

theorem empty : Memory.empty.Sound P := by
  intro id f hf
  rw [show Memory.empty.folders = ∅ from rfl, Std.ExtTreeMap.getElem?_empty] at hf
  cases hf

theorem modify (h : m.Sound P) (id : String) {change : Folder → Folder}
    (hc : ∀ f, f.Sound P id → (change f).Sound P id) : (m.modify id change).Sound P := by
  intro key f hf
  rw [getElem?_modify] at hf
  split_ifs at hf with hkey
  · obtain ⟨g, hg, rfl⟩ := Option.map_eq_some_iff.mp hf
    rw [← hkey] at hg ⊢
    exact hc g (h id g hg)
  · exact h key f hf

theorem require (h : m.Sound P) (id : String) {change : Folder → Folder}
    (hc : ∀ f, f.Sound P id → (change f).Sound P id) : (m.require id change).2.Sound P := by
  unfold Memory.require
  split_ifs
  · exact h.modify id hc
  · exact h

theorem create (h : m.Sound P) {r : FolderRecord} (hr : r.Normal) : (m.create r).Sound P := by
  intro key f hf
  rw [getElem?_create] at hf
  split_ifs at hf with hkey
  · rw [← Option.some.inj hf, ← hkey]
    cases hold : m.folders[r.id]? with
    | none => exact .new hr
    | some old => exact (h r.id old hold).record rfl hr
  · exact h key f hf

theorem foldl_create (h : m.Sound P) {rs : List FolderRecord} (hrs : ∀ r ∈ rs, r.Normal) :
    (rs.foldl Memory.create m).Sound P := by
  induction rs generalizing m with
  | nil => exact h
  | cons r rs ih =>
    have hr : (m.create r).Sound P := h.create (hrs r List.mem_cons_self)
    exact ih hr fun r' hr' => hrs r' (List.mem_cons_of_mem r hr')

theorem foldl_delete (h : m.Sound P) (ids : List String) : (ids.foldl delete m).Sound P := by
  intro key f hf
  rw [getElem?_foldl_delete] at hf
  split_ifs at hf
  exact h key f hf

/-- An orderly call keeps a mailbox sound. -/
theorem next (hP : StoredMessage.IgnoresFlags P) (h : m.Sound P) {call : Call}
    (hc : call.Orderly P) : (m.next call).Sound P := by
  cases call with
  | createFolders rs => exact h.foldl_create hc
  | deleteFolders ids => exact h.foldl_delete ids
  | changeFolder id name role => exact h.modify id fun f hf => hf.record hf.own hf.normal
  | setFolderExtra folder key value => exact h.require folder fun f hf => hf.setExtra key value
  | saveMessage folder message state => exact h.require folder fun f hf => hf.save hc
  | destroyMessages folder ids => exact h.modify folder fun f hf => hf.destroy ids
  | setFlag folder id flag state => exact h.modify folder fun f hf => hf.setFlag hP id flag state
  | removeAllMessages folder => exact h.modify folder fun f hf => hf.clear
  | wipe => exact .empty
  | _ => exact h

theorem after (hP : StoredMessage.IgnoresFlags P) (h : m.Sound P) {calls : List Call}
    (hc : ∀ c ∈ calls, c.Orderly P) : (m.after calls).Sound P := by
  induction calls generalizing m with
  | nil => exact h
  | cons call calls ih =>
    have hnext : (m.next call).Sound P := h.next hP (hc call List.mem_cons_self)
    exact ih hnext fun d hd => hc d (List.mem_cons_of_mem call hd)

/-- What is read from a sound mailbox under an id is that message, and as it should be. -/
theorem message? (h : m.Sound P) {folder id : String} {stored : StoredMessage}
    (hs : m.message? folder id = some stored) : stored.message.id = id ∧ P stored := by
  obtain ⟨f, hf, hm⟩ := Option.bind_eq_some_iff.mp hs
  exact (h folder f hf).messages id stored hm

end Sound
end Memory
end Mailbox
end MailSync
