import MailSync.Mailbox.Marks
import MailSync.Proofs.Mailbox.Folders

/-!
# Calls about one folder

A call that is about one folder may change its messages and its key, and the policy key of the
account. Whatever lies beside these stays as it was, also after many such calls.
-/
namespace MailSync.Mailbox

/-- The call changes nothing but the messages and the key of a folder, or the policy key. -/
def Call.Within (folder : String) : Call → Prop
  | setExtra key _ => key = policyKeyMark
  | setFolderExtra id key _ => id = folder ∧ key = keyMark
  | saveMessage id .. | destroyMessages id _ | setFlag id .. | removeAllMessages id => id = folder
  | createFolders _ | deleteFolders _ | changeFolder .. | wipe => False
  | extra _ | folderIds | Call.folder _ | folders | folderExtra .. | message .. | messageIds _
  | truncatedIds _ => True

namespace Memory

/-- Two mailboxes that differ in the messages and the key of one folder, and in the policy key, at
most. -/
structure Beside (folder : String) (m m' : Memory) : Prop where
  extras : ∀ key, key ≠ policyKeyMark → m'.extras[key]? = m.extras[key]?
  others : ∀ id, id ≠ folder → m'.folders[id]? = m.folders[id]?
  record : m'.folders[folder]?.map (·.record) = m.folders[folder]?.map (·.record)
  marks : ∀ key, key ≠ keyMark →
    m'.folders[folder]?.bind (·.extras[key]?) = m.folders[folder]?.bind (·.extras[key]?)

namespace Beside
variable {folder : String} {m m' m'' : Memory}

protected theorem refl (folder : String) (m : Memory) : m.Beside folder m :=
  ⟨fun _ _ => rfl, fun _ _ => rfl, rfl, fun _ _ => rfl⟩

theorem trans (h : m.Beside folder m') (h' : m'.Beside folder m'') : m.Beside folder m'' where
  extras key hk := (h'.extras key hk).trans (h.extras key hk)
  others id hid := (h'.others id hid).trans (h.others id hid)
  record := h'.record.trans h.record
  marks key hk := (h'.marks key hk).trans (h.marks key hk)

/-- A change of the folder that spares its record and its other marks. -/
theorem modify (m : Memory) (folder : String) {change : Folder → Folder}
    (hrecord : ∀ f, (change f).record = f.record)
    (hmarks : ∀ f key, key ≠ keyMark → (change f).extras[key]? = f.extras[key]?) :
    m.Beside folder (m.modify folder change) where
  extras _ _ := rfl
  others id hid := by rw [getElem?_modify, if_neg (Ne.symm hid)]
  record := by
    rw [getElem?_modify, if_pos rfl, Option.map_map]
    exact congrFun (congrArg Option.map (funext hrecord)) _
  marks key hk := by
    rw [getElem?_modify, if_pos rfl, Option.bind_map]
    exact congrArg _ (funext fun f => hmarks f key hk)

theorem require (m : Memory) (folder : String) {change : Folder → Folder}
    (hrecord : ∀ f, (change f).record = f.record)
    (hmarks : ∀ f key, key ≠ keyMark → (change f).extras[key]? = f.extras[key]?) :
    m.Beside folder (m.require folder change).2 := by
  unfold Memory.require
  split_ifs
  · exact modify m folder hrecord hmarks
  · exact .refl folder m

/-- One call about the folder. -/
theorem next {call : Call} (h : call.Within folder) (m : Memory) :
    m.Beside folder (m.next call) := by
  cases call with
  | setExtra key value =>
    refine ⟨fun k hk => ?_, fun _ _ => rfl, rfl, fun _ _ => rfl⟩
    exact getElem?_place_of_ne (fun he => hk (he.trans h)) value
  | setFolderExtra id key value =>
    obtain ⟨rfl, rfl⟩ := h
    exact require m id (fun _ => rfl) fun f k hk => getElem?_place_of_ne hk value
  | saveMessage id message state =>
    obtain rfl := h
    exact require m id (fun _ => rfl) fun _ _ _ => rfl
  | destroyMessages id ids =>
    obtain rfl := h
    exact modify m id (fun _ => rfl) fun _ _ _ => rfl
  | setFlag id message flag state =>
    obtain rfl := h
    exact modify m id (fun _ => rfl) fun _ _ _ => rfl
  | removeAllMessages id =>
    obtain rfl := h
    exact modify m id (fun _ => rfl) fun _ _ _ => rfl
  | createFolders records => exact h.elim
  | deleteFolders ids => exact h.elim
  | changeFolder id name role => exact h.elim
  | wipe => exact h.elim
  | _ => exact .refl folder m

theorem after {calls : List Call} (h : ∀ call ∈ calls, call.Within folder) (m : Memory) :
    m.Beside folder (m.after calls) := by
  induction calls generalizing m with
  | nil => exact .refl folder m
  | cons call calls ih =>
    exact (next (h call List.mem_cons_self) m).trans
      (ih (fun c hc => h c (List.mem_cons_of_mem call hc)) _)

end Beside
end Memory
end MailSync.Mailbox
