import Mathlib.Tactic.SplitIfs
import MailSync.Proofs.Mailbox.Calls

/-!
# The folders of a mailbox

What is found under an id after a call that creates, renames or deletes folders, or changes what
one of them holds. A mailbox that was built by its own calls files every folder under the id of its
record, so its records can be read back as a map.
-/
namespace MailSync.Mailbox

theorem getElem?_foldl_erase {β : Type} (keys : List String) (t : Std.ExtTreeMap String β)
    (key : String) :
    (keys.foldl Std.ExtTreeMap.erase t)[key]? = if key ∈ keys then none else t[key]? := by
  induction keys generalizing t with
  | nil => rfl
  | cons k keys ih =>
    rw [List.foldl_cons, ih, Std.ExtTreeMap.getElem?_erase]
    by_cases h : key ∈ keys
    · simp [h]
    · by_cases hk : k = key <;> simp [h, hk, Ne.symm]

/-- A folder under another record: what was found keeps what it holds. -/
def Folder.adopt (record : FolderRecord) : Option Folder → Folder
  | some found => { found with record }
  | none => .new record

theorem Folder.adopt_adopt (r : FolderRecord) (x : Option Folder) :
    adopt r (some (adopt r x)) = adopt r x := by
  cases x <;> rfl

/-- A folder under another name and in another role. -/
def Folder.rename (f : Folder) (name : String) (role : FolderRole) : Folder :=
  { f with record := ⟨f.record.id, name, role, f.record.parent⟩ }

theorem Folder.rename_eq_adopt {f : Folder} {r : FolderRecord} (hid : f.record.id = r.id)
    (hp : f.record.parent = r.parent) : f.rename r.name r.role = adopt r (some f) := by
  rw [rename, hid, hp]
  rfl

theorem getElem?_place_of_ne {m : Std.ExtTreeMap String String} {key k : String} (h : k ≠ key)
    (value : Option String) : (place m key value)[k]? = m[k]? := by
  have hc : ¬compare key k = .eq := fun hc => h (Std.compare_eq_iff_eq.mp hc).symm
  cases value with
  | none => exact Std.ExtTreeMap.getElem?_erase.trans (if_neg hc)
  | some v => exact Std.ExtTreeMap.getElem?_insert.trans (if_neg hc)

theorem getElem?_place_self (m : Std.ExtTreeMap String String) (key : String)
    (value : Option String) : (place m key value)[key]? = value := by
  cases value with
  | none => exact Std.ExtTreeMap.getElem?_erase_self
  | some v => exact Std.ExtTreeMap.getElem?_insert_self

namespace Memory

theorem modify_of_not_mem {m : Memory} {id : String} (h : id ∉ m.folders) (f : Folder → Folder) :
    m.modify id f = m := by
  have hn : m.folders[id]? = none := Std.ExtTreeMap.getElem?_eq_none h
  have he : m.folders.modify id f = m.folders := by
    apply Std.ExtTreeMap.ext_getElem?
    intro id'
    rw [Std.ExtTreeMap.getElem?_modify]
    split
    · next hc => rw [← Std.compare_eq_iff_eq.mp hc, hn, Option.map_none]
    · rfl
  rw [modify, he]

theorem modify_modify (m : Memory) (id : String) (f g : Folder → Folder) :
    (m.modify id f).modify id g = m.modify id (g ∘ f) := by
  have he : (m.folders.modify id f).modify id g = m.folders.modify id (g ∘ f) := by
    apply Std.ExtTreeMap.ext_getElem?
    intro id'
    simp only [Std.ExtTreeMap.getElem?_modify]
    split
    · rw [if_pos Std.ReflCmp.compare_self, Option.map_map]
    · rfl
  rw [modify, modify, modify, he]

theorem modify_id (m : Memory) (id : String) : m.modify id (fun f => f) = m := by
  have he : m.folders.modify id (fun f => f) = m.folders := by
    apply Std.ExtTreeMap.ext_getElem?
    intro id'
    rw [Std.ExtTreeMap.getElem?_modify]
    split
    · next hc => rw [← Std.compare_eq_iff_eq.mp hc, Option.map_id']
    · rfl
  rw [modify, he]

theorem getElem?_modify (m : Memory) (id : String) (change : Folder → Folder) (key : String) :
    (m.modify id change).folders[key]? =
      if id = key then m.folders[key]?.map change else m.folders[key]? := by
  rw [modify, Std.ExtTreeMap.getElem?_modify]
  simp only [Std.compare_eq_iff_eq]
  split_ifs with h
  · rw [h]
  · rfl

theorem getElem?_create (m : Memory) (r : FolderRecord) (key : String) :
    (m.create r).folders[key]? =
      if r.id = key then some (.adopt r m.folders[key]?) else m.folders[key]? := by
  simp only [create, Std.ExtTreeMap.getElem?_alter, Std.compare_eq_iff_eq]
  split_ifs with h
  · rw [h]
    cases m.folders[key]? <;> rfl
  · rfl

theorem getElem?_rename (m : Memory) (id name : String) (role : FolderRole) (key : String) :
    (m.rename id name role).folders[key]? =
      if id = key then m.folders[key]?.map (·.rename name role) else m.folders[key]? :=
  getElem?_modify m id _ key

theorem folders_foldl_delete (m : Memory) (ids : List String) :
    (ids.foldl delete m).folders = ids.foldl Std.ExtTreeMap.erase m.folders := by
  induction ids generalizing m with
  | nil => rfl
  | cons id ids ih => exact ih (m.delete id)

theorem extras_foldl_delete (m : Memory) (ids : List String) :
    (ids.foldl delete m).extras = m.extras := by
  induction ids generalizing m with
  | nil => rfl
  | cons id ids ih => exact ih (m.delete id)

theorem extras_foldl_create (m : Memory) (rs : List FolderRecord) :
    (rs.foldl create m).extras = m.extras := by
  induction rs generalizing m with
  | nil => rfl
  | cons r rs ih => exact ih (m.create r)

theorem getElem?_foldl_delete (m : Memory) (ids : List String) (key : String) :
    (ids.foldl delete m).folders[key]? = if key ∈ ids then none else m.folders[key]? := by
  rw [folders_foldl_delete, getElem?_foldl_erase]

/-- What a folder holds, apart from its record. -/
def contents (m : Memory) (id : String) :
    Option (Std.ExtTreeMap String String × Std.ExtTreeMap String StoredMessage) :=
  m.folders[id]?.map fun f => (f.extras, f.messages)

theorem mem_of_contents {m : Memory} {id : String} {k}
    (h : m.contents id = some k) : id ∈ m.folders := by
  obtain ⟨f, hf, -⟩ := Option.map_eq_some_iff.mp h
  exact Std.ExtTreeMap.mem_iff_isSome_getElem?.mpr (by rw [hf]; rfl)

theorem contents_of_mem {m : Memory} {id : String} (h : id ∈ m.folders) :
    ∃ k, m.contents id = some k := by
  obtain ⟨f, hf⟩ := Option.isSome_iff_exists.mp (Std.ExtTreeMap.mem_iff_isSome_getElem?.mp h)
  exact ⟨_, by rw [contents, hf, Option.map_some]⟩

theorem message?_eq (m : Memory) (folder id : String) :
    m.message? folder id = (m.contents folder).bind fun k => k.2[id]? := by
  rw [message?, contents, Option.bind_map]
  rfl

theorem mem_of_message? {m : Memory} {folder id : String} {x : StoredMessage}
    (h : m.message? folder id = some x) : folder ∈ m.folders := by
  rw [message?_eq] at h
  obtain ⟨k, hk, -⟩ := Option.bind_eq_some_iff.mp h
  exact mem_of_contents hk

/-- To create a folder that is there keeps what it holds. -/
theorem contents_create_of_some {m : Memory} {id : String} {k} (h : m.contents id = some k)
    (r : FolderRecord) : (m.create r).contents id = some k := by
  unfold contents at h ⊢
  rw [getElem?_create]
  split_ifs
  · obtain ⟨f, hf, hk⟩ := Option.map_eq_some_iff.mp h
    rw [hf, ← hk]
    rfl
  · exact h

theorem contents_create_of_ne {r : FolderRecord} {id : String} (h : r.id ≠ id) (m : Memory) :
    (m.create r).contents id = m.contents id := by
  rw [contents, getElem?_create, if_neg h, contents]

theorem contents_foldl_create_of_some {m : Memory} {id : String} {k} (h : m.contents id = some k)
    (rs : List FolderRecord) : (rs.foldl create m).contents id = some k := by
  induction rs generalizing m with
  | nil => exact h
  | cons r rs ih => exact ih (contents_create_of_some h r)

theorem contents_foldl_create_of_ne {rs : List FolderRecord} {id : String}
    (h : ∀ r ∈ rs, r.id ≠ id) (m : Memory) : (rs.foldl create m).contents id = m.contents id := by
  induction rs generalizing m with
  | nil => rfl
  | cons r rs ih =>
    rw [List.foldl_cons, ih (fun r' hr' => h r' (List.mem_cons_of_mem r hr')),
      contents_create_of_ne (h r List.mem_cons_self)]

theorem contents_foldl_delete (m : Memory) (ids : List String) (id : String) :
    (ids.foldl delete m).contents id = if id ∈ ids then none else m.contents id := by
  rw [contents, getElem?_foldl_delete, contents]
  split_ifs <;> rfl

theorem contents_rename (m : Memory) (id name : String) (role : FolderRole) (key : String) :
    (m.rename id name role).contents key = m.contents key := by
  rw [contents, getElem?_rename, contents]
  split_ifs
  · rw [Option.map_map]
    rfl
  · rfl

/-- Every folder is filed under the id of its record. -/
def Keyed (m : Memory) : Prop := ∀ (id : String) f, m.folders[id]? = some f → f.record.id = id

theorem Keyed.modify {m : Memory} (h : m.Keyed) (id : String) {change : Folder → Folder}
    (hc : ∀ f, (change f).record.id = f.record.id) : (m.modify id change).Keyed := by
  intro key f hf
  rw [getElem?_modify] at hf
  split_ifs at hf
  · obtain ⟨g, hg, rfl⟩ := Option.map_eq_some_iff.mp hf
    rw [hc]
    exact h key g hg
  · exact h key f hf

theorem Keyed.create {m : Memory} (h : m.Keyed) (r : FolderRecord) : (m.create r).Keyed := by
  intro key f hf
  rw [getElem?_create] at hf
  split_ifs at hf with hk
  · rw [← hk, ← Option.some.inj hf]
    cases m.folders[key]? <;> rfl
  · exact h key f hf

theorem Keyed.foldl_create {m : Memory} (h : m.Keyed) (rs : List FolderRecord) :
    (rs.foldl Memory.create m).Keyed := by
  induction rs generalizing m with
  | nil => exact h
  | cons r rs ih => exact ih (h.create r)

theorem Keyed.foldl_delete {m : Memory} (h : m.Keyed) (ids : List String) :
    (ids.foldl delete m).Keyed := by
  intro key f hf
  rw [getElem?_foldl_delete] at hf
  split_ifs at hf
  exact h key f hf

theorem Keyed.require {m : Memory} (h : m.Keyed) (id : String) {change : Folder → Folder}
    (hc : ∀ f, (change f).record.id = f.record.id) : (m.require id change).2.Keyed := by
  unfold Memory.require
  split_ifs
  · exact h.modify id hc
  · exact h

/-- A call keeps every folder under the id of its record. -/
theorem Keyed.next {m : Memory} (h : m.Keyed) (call : Call) : (m.next call).Keyed := by
  cases call with
  | createFolders rs => exact h.foldl_create rs
  | deleteFolders ids => exact h.foldl_delete ids
  | changeFolder id name role => exact h.modify id fun _ => rfl
  | setFolderExtra folder key value => exact h.require folder fun _ => rfl
  | saveMessage folder message state => exact h.require folder fun _ => rfl
  | destroyMessages folder ids => exact h.modify folder fun _ => rfl
  | setFlag folder id flag state => exact h.modify folder fun _ => rfl
  | removeAllMessages folder => exact h.modify folder fun _ => rfl
  | wipe =>
    intro id f hf
    rw [show (m.next .wipe).folders = ∅ from rfl, Std.ExtTreeMap.getElem?_empty] at hf
    cases hf
  | _ => exact h

theorem Keyed.after {m : Memory} (h : m.Keyed) (calls : List Call) : (m.after calls).Keyed := by
  induction calls generalizing m with
  | nil => exact h
  | cons call calls ih => exact ih (h.next call)

/-- A mailbox that calls have built from an empty one. -/
def Built (m : Memory) : Prop := ∃ calls, m = empty.after calls

theorem Built.keyed {m : Memory} (h : m.Built) : m.Keyed := by
  obtain ⟨calls, rfl⟩ := h
  refine Keyed.after ?_ calls
  intro id f hf
  rw [show empty.folders = ∅ from rfl, Std.ExtTreeMap.getElem?_empty] at hf
  cases hf

theorem mem_records {m : Memory} {r : FolderRecord} :
    r ∈ m.records ↔ ∃ (id : String) (f : Folder), m.folders[id]? = some f ∧ f.record = r := by
  rw [records, List.mem_map]
  constructor
  · rintro ⟨⟨id, f⟩, h, rfl⟩
    exact ⟨id, f, Std.ExtTreeMap.mem_toList_iff_getElem?_eq_some.mp h, rfl⟩
  · rintro ⟨id, f, h, rfl⟩
    exact ⟨(id, f), Std.ExtTreeMap.mem_toList_iff_getElem?_eq_some.mpr h, rfl⟩

end Memory
end MailSync.Mailbox
