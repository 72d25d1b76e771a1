import MailSync.Proofs.Ensures
import MailSync.Proofs.Mailbox.Marking

/-!
# Marks of a mailbox in memory

What the marks come to when the mailbox is in memory, where every question has an answer and only a
folder that is not there refuses a mark.
-/
namespace MailSync
open Mailbox (Memory hierarchyKeyMark policyKeyMark keyMark windowMark)

variable {s : Surroundings Memory} {w : World Memory}

namespace Mailbox
open Operation

theorem runIn_hierarchyKey :
    hierarchyKey.runIn s w = (.ok w.mailbox.extras[hierarchyKeyMark]?, w) :=
  runIn_ask_read rfl s w

theorem runIn_setHierarchyKey (key : Option String) :
    (setHierarchyKey key).runIn s w = (.ok (), w.written [.setExtra hierarchyKeyMark key]) :=
  runIn_ask_write rfl s w

theorem runIn_policyKey : policyKey.runIn s w = (.ok w.mailbox.extras[policyKeyMark]?, w) :=
  runIn_ask_read rfl s w

theorem runIn_setPolicyKey (key : Option String) :
    (setPolicyKey key).runIn s w = (.ok (), w.written [.setExtra policyKeyMark key]) :=
  runIn_ask_write rfl s w

/-- The key that a mailbox holds for a folder. -/
def Memory.key? (m : Memory) (folder : String) : Option String :=
  m.folders[folder]?.bind (·.extras[keyMark]?)

theorem Memory.key?_eq (m : Memory) (folder : String) :
    m.key? folder = (m.contents folder).bind fun k => k.1[keyMark]? := by
  rw [key?, contents, Option.bind_map]
  rfl

theorem runIn_key (folder : String) :
    (key folder).runIn s w = (.ok (w.mailbox.key? folder), w) :=
  runIn_ask_read rfl s w

theorem runIn_setKey {folder : String} (h : folder ∈ w.mailbox.folders) (key : Option String) :
    (setKey folder key).runIn s w = (.ok (), w.written [.setFolderExtra folder keyMark key]) := by
  have ha : (Memory.answer (.setFolderExtra folder keyMark key) w.mailbox).1 = .ok () := by
    simp only [Memory.answer, Memory.require, if_pos h]
  rw [setKey, runIn_ask_write rfl, ha]
  rfl

theorem Memory.contents_setFolderExtra {m : Memory} {folder : String} {k}
    (h : m.contents folder = some k) (key : String) (value : Option String) :
    (m.next (.setFolderExtra folder key value)).contents folder =
      some (place k.1 key value, k.2) := by
  have hn : m.next (.setFolderExtra folder key value) =
      m.modify folder fun f => { f with extras := place f.extras key value } := by
    simp only [Memory.next, Memory.answer, Memory.require, if_pos (Memory.mem_of_contents h)]
    rfl
  obtain ⟨f, hf, rfl⟩ := Option.map_eq_some_iff.mp h
  rw [hn, Memory.contents, Memory.getElem?_modify, if_pos rfl, hf]
  rfl

/-- The messages that a mailbox holds for a folder. -/
def Memory.messages? (m : Memory) (folder : String) :
    Option (Std.ExtTreeMap String StoredMessage) :=
  m.folders[folder]?.map (·.messages)

theorem Memory.messages?_eq (m : Memory) (folder : String) :
    m.messages? folder = (m.contents folder).map (·.2) := by
  rw [messages?, contents, Option.map_map]
  rfl

/-- The window that a mailbox holds for a folder. -/
def Memory.window? (m : Memory) (folder : String) : Option Window :=
  (m.folders[folder]?.bind (·.extras[windowMark]?)).bind windowOf?

theorem runIn_window? (folder : String) :
    (window? folder).runIn s w = (.ok (w.mailbox.window? folder), w) := by
  rw [window?, runIn_bind_ok (runIn_ask_mark folder windowMark)]
  rfl

end Mailbox

theorem Session.runIn_snapshot (sess : Session) : sess.snapshot.runIn s w =
    (.ok { sess.account with policyKey := w.mailbox.extras[policyKeyMark]? }, w) := by
  rw [snapshot, Operation.runIn_bind_ok Mailbox.runIn_policyKey]
  rfl

theorem runIn_requireFolder {folder : String} (h : folder ∈ w.mailbox.folders) :
    (requireFolder folder).runIn s w = (.ok (), w) :=
  runIn_requireFolder_of_has (Memory.has_iff.mpr h)

theorem runIn_requireFolder_of_not_mem {folder : String} (h : folder ∉ w.mailbox.folders) :
    (requireFolder folder).runIn s w = (.error (.folderNotFound folder), w) := by
  have ha : (Operation.ask (.folder folder)).runIn s w =
      (.ok (w.mailbox.folders[folder]?.map (·.record)), w) := Operation.runIn_ask_read rfl s w
  rw [requireFolder, Operation.runIn_bind_ok ha, Std.ExtTreeMap.getElem?_eq_none h]
  rfl

theorem Operation.Ensures.requireFolder {folder : String} {Q : Unit → World Memory → Prop}
    {E : SyncError → World Memory → Prop} (hQ : folder ∈ w.mailbox.folders → Q () w)
    (hE : folder ∉ w.mailbox.folders → E (.folderNotFound folder) w) :
    Ensures (requireFolder folder) s w Q E := by
  unfold Ensures
  by_cases h : folder ∈ w.mailbox.folders
  · rw [runIn_requireFolder h]
    exact hQ h
  · rw [runIn_requireFolder_of_not_mem h]
    exact hE h

end MailSync
