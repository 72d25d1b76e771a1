import MailSync.Proofs.Mailbox.Folders
import MailSync.Proofs.Mailbox.Rows
import MailSync.Session

/-!
# Storages that keep marks

A mark of a folder is what the storage says when it is asked for it. A storage keeps marks if to ask
changes nothing, if each mark of a folder that is there can be set, and if that changes this mark
and no other. The mailbox in memory and the one in tables both do, in whatever state they are, so
what is shown of a storage that keeps marks holds of both.
-/
namespace MailSync
open Mailbox (Medium Memory Tables)

variable {σ : Type} [Medium σ]

namespace Mailbox

/-- The storage has a folder. -/
def Has (store : σ) (folder : String) : Prop :=
  ∃ record, (Medium.answer (.folder folder) store).1 = .ok (some record)

/-- What the storage says of a mark of a folder. -/
def mark? (store : σ) (folder name : String) : Option String :=
  (Medium.answer (.folderExtra folder name) store).1.toOption.join

/-- The storage once a mark was set. -/
def marked (store : σ) (folder name : String) (value : Option String) : σ :=
  (Medium.answer (.setFolderExtra folder name value) store).2

/-- The storage keeps the marks of the folders it has. -/
class KeepsMarks (σ : Type) [Medium σ] : Prop where
  snd_folder : ∀ (store : σ) folder, (Medium.answer (.folder folder) store).2 = store
  answer_mark : ∀ (store : σ) folder name,
    Medium.answer (.folderExtra folder name) store = (.ok (mark? store folder name), store)
  fst_setMark : ∀ {store : σ} {folder}, Has store folder → ∀ name value,
    (Medium.answer (.setFolderExtra folder name value) store).1 = .ok ()
  folder_marked : ∀ {store : σ} {folder}, Has store folder → ∀ name value id,
    (Medium.answer (.folder id) (marked store folder name value)).1 =
      (Medium.answer (.folder id) store).1
  mark?_marked : ∀ {store : σ} {folder}, Has store folder → ∀ name value id key,
    mark? (marked store folder name value) id key =
      if folder = id ∧ name = key then value else mark? store id key

/-! ### In memory -/

namespace Memory
variable {m : Memory} {folder : String}

theorem has_iff : Has m folder ↔ folder ∈ m.folders := by
  rw [Std.ExtTreeMap.mem_iff_isSome_getElem?, ← Option.isSome_map,
    Option.isSome_iff_exists]
  constructor
  · rintro ⟨record, hr⟩
    exact ⟨record, Except.ok.inj hr⟩
  · rintro ⟨record, hr⟩
    exact ⟨record, congrArg _ hr⟩

theorem marked_eq (h : Has m folder) (name : String) (value : Option String) :
    marked m folder name value = m.modify folder (·.setExtra name value) := by
  simp only [marked, Medium.answer, answer, require, if_pos (has_iff.mp h)]

instance : KeepsMarks Memory where
  snd_folder _ _ := rfl
  answer_mark _ _ _ := rfl
  fst_setMark h name value := by
    simp only [Medium.answer, answer, require, if_pos (has_iff.mp h)]
  folder_marked {m folder} h name value id := by
    rw [marked_eq h]
    simp only [Medium.answer, answer, getElem?_modify]
    split_ifs
    · rw [Option.map_map]
      rfl
    · rfl
  mark?_marked {m folder} h name value id key := by
    obtain ⟨f, hf⟩ := Option.isSome_iff_exists.mp
      (Std.ExtTreeMap.mem_iff_isSome_getElem?.mp (has_iff.mp h))
    change (marked m folder name value).folders[id]?.bind (·.extras[key]?) =
      if folder = id ∧ name = key then value else m.folders[id]?.bind (·.extras[key]?)
    rw [marked_eq h, getElem?_modify]
    by_cases hid : folder = id
    · subst hid
      rw [if_pos rfl, hf]
      by_cases hk : name = key
      · subst hk
        rw [if_pos ⟨rfl, rfl⟩]
        exact getElem?_place_self f.extras name value
      · rw [if_neg fun hc => hk hc.2]
        exact getElem?_place_of_ne (Ne.symm hk) value
    · rw [if_neg hid, if_neg fun hc => hid hc.1]

end Memory

/-! ### In tables -/

namespace Tables
variable {t : Tables} {folder : String}

theorem hasFolder_of_has (h : Has t folder) : t.hasFolder folder = true := by
  obtain ⟨record, hr⟩ := h
  simp only [Medium.answer, answer] at hr
  cases hfind : t.folders.find? fun r => decide (r.id = folder) with
  | none =>
    rw [hfind] at hr
    cases hr
  | some r =>
    have hid : r.id = folder := by simpa using List.find?_some hfind
    exact List.any_eq_true.mpr ⟨r, List.mem_of_find?_eq_some hfind, decide_eq_true hid⟩

theorem marked_eq (h : Has t folder) (name : String) (value : Option String) :
    marked t folder name value = t.setFolderExtra folder name value := by
  simp only [marked, Medium.answer, answer, require, if_pos (hasFolder_of_has h)]

theorem folders_setFolderExtra (t : Tables) (folder name : String) (value : Option String) :
    (t.setFolderExtra folder name value).folders = t.folders := by
  cases value <;> rfl

theorem find?_setFolderExtra (t : Tables) (folder name : String) (value : Option String)
    (k : String × String) :
    (t.setFolderExtra folder name value).folderExtras.find?
        (fun r => decide ((r.folder, r.key) = k)) =
      if (folder, name) = k then value.map (.mk folder name)
      else t.folderExtras.find? fun r => decide ((r.folder, r.key) = k) := by
  cases value with
  | some v => exact find?_upsert (fun r : FolderExtraRow => (r.folder, r.key)) _ _ k
  | none =>
    have hothers := find?_filter_key (fun r : FolderExtraRow => (r.folder, r.key))
      (fun k => decide ¬(k.1 = folder ∧ k.2 = name)) t.folderExtras k
    rw [setFolderExtra, hothers]
    by_cases h : (folder, name) = k
    · subst h
      simp
    · have hk : ¬(k.1 = folder ∧ k.2 = name) := fun hc => h (Prod.ext hc.1.symm hc.2.symm)
      rw [if_pos (decide_eq_true hk), if_neg h]

instance : KeepsMarks Tables where
  snd_folder t folder := by
    simp only [Medium.answer, answer]
    split <;> rfl
  answer_mark _ _ _ := rfl
  fst_setMark h name value := by
    simp only [Medium.answer, answer, require, if_pos (hasFolder_of_has h)]
  folder_marked {t folder} h name value id := by
    rw [marked_eq h]
    simp only [Medium.answer, answer, folders_setFolderExtra]
    split <;> rfl
  mark?_marked {t folder} h name value id key := by
    have hmark (t : Tables) : mark? t id key =
        (t.folderExtras.find? fun r => decide ((r.folder, r.key) = (id, key))).map (·.value) := by
      simp only [Prod.mk.injEq]
      rfl
    rw [marked_eq h, hmark, hmark, find?_setFolderExtra]
    simp only [Prod.mk.injEq]
    split_ifs
    · cases value <;> rfl
    · rfl

end Tables
end Mailbox

/-! ### Asking for marks and setting them -/

namespace World

/-- The world once a mark was set. -/
def marking (w : World σ) (folder name : String) (value : Option String) : World σ :=
  { w with mailbox := Mailbox.marked w.mailbox folder name value }.record
    (.wrote (.setFolderExtra folder name value))

end World

section
variable [Mailbox.KeepsMarks σ] {s : Surroundings σ} {w : World σ} {folder : String}

namespace Mailbox.Has

theorem marking (h : Has w.mailbox folder) (name : String) (value : Option String) (id : String) :
    Has (w.marking folder name value).mailbox id ↔ Has w.mailbox id := by
  change (∃ r, (Medium.answer (.folder id) (marked w.mailbox folder name value)).1 = _) ↔ _
  rw [KeepsMarks.folder_marked h]
  rfl

theorem mark?_marking (h : Has w.mailbox folder) (name : String) (value : Option String)
    (id key : String) : mark? (w.marking folder name value).mailbox id key =
      if folder = id ∧ name = key then value else mark? w.mailbox id key :=
  KeepsMarks.mark?_marked h name value id key

end Mailbox.Has

namespace Operation

theorem runIn_ask_mark (folder name : String) :
    (ask (.folderExtra folder name)).runIn s w = (.ok (Mailbox.mark? w.mailbox folder name), w) := by
  rw [runIn_ask]
  simp only [Effect.perform, Mailbox.KeepsMarks.answer_mark]
  rfl

theorem runIn_ask_setMark (h : Mailbox.Has w.mailbox folder) (name : String)
    (value : Option String) :
    (ask (.setFolderExtra folder name value)).runIn s w =
      (.ok (), w.marking folder name value) := by
  have hok := Mailbox.KeepsMarks.fst_setMark h name value
  rw [runIn_ask]
  simp only [Effect.perform, hok]
  rfl

end Operation

/-- A folder that is there is asked for, and nothing changes. -/
theorem runIn_requireFolder_of_has (h : Mailbox.Has w.mailbox folder) :
    (requireFolder folder).runIn s w = (.ok (), w) := by
  obtain ⟨record, hr⟩ := h
  have hask : (Operation.ask (.folder folder)).runIn s w = (.ok (some record), w) := by
    rw [Operation.runIn_ask]
    simp only [Effect.perform, hr, Mailbox.KeepsMarks.snd_folder]
    rfl
  rw [requireFolder, Operation.runIn_bind_ok hask]
  rfl

/-- Without the folder nothing is done. -/
theorem runIn_requireFolder_of_not_has (h : ¬Mailbox.Has w.mailbox folder) :
    ∃ e, (requireFolder folder).runIn s w = (.error e, w) := by
  have hask : (Operation.ask (.folder folder)).runIn s w =
      ((Medium.answer (.folder folder) w.mailbox).1.mapError .storage, w) := by
    rw [Operation.runIn_ask]
    simp only [Effect.perform, Mailbox.KeepsMarks.snd_folder]
    rfl
  rw [requireFolder, Operation.runIn_bind, hask]
  cases hr : (Medium.answer (.folder folder) w.mailbox).1 with
  | error e => exact ⟨.storage e, rfl⟩
  | ok found =>
    cases found with
    | none => exact ⟨.folderNotFound folder, rfl⟩
    | some record => exact absurd ⟨record, hr⟩ h

end
end MailSync
