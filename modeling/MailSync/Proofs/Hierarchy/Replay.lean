import MailSync.Hierarchy.Replay
import MailSync.Proofs.Mailbox.Folders
import MailSync.Proofs.Overwrite

/-!
# Replaying a batch of folders

A replay decides each folder by itself: what stands under an id afterwards depends on what stood
there before and on nothing else. Either the batch forgets what was there, or it renames a folder
that is there and keeps its role. So a batch that is replayed over its own outcome changes nothing.
-/
namespace MailSync.Hierarchy
open Mailbox (Memory)

/-- A change of a record that may rename and move its folder but keeps its role. -/
def Renames (q : FolderRecord → FolderRecord) : Prop :=
  q = id ∨ ∃ e : Entry, q = fun old => e.record old.role

theorem overwriting_renames : Overwriting Renames where
  id := .inl rfl
  comp := by
    rintro p q (rfl | ⟨d, rfl⟩) (rfl | ⟨e, rfl⟩)
    · exact .inl rfl
    · exact .inr ⟨e, rfl⟩
    · exact .inr ⟨d, rfl⟩
    · exact .inr ⟨e, rfl⟩
  idem := by
    rintro p (rfl | ⟨e, rfl⟩) r <;> rfl

namespace Delta

/-- What a change makes of the record under its id. -/
def settle (d : Delta) (x : Option FolderRecord) : Option FolderRecord :=
  match d with
  | .add e =>
    match e.role? with
    | some role => some (e.record role)
    | none => x
  | .change e =>
    match e.type, e.role? with
    | none, _ => x.map fun old => e.record old.role
    | some _, some role => some (e.record role)
    | some _, none => x
  | .remove _ => none

/-- What a change says of a folder that it does not take out. -/
def entry? : Delta → Option Entry
  | .add e | .change e => some e
  | .remove _ => none

/-- The role that a change states, if it has the type of a mail folder. -/
def role? (d : Delta) : Option FolderRole := d.entry?.bind Entry.role?

def isRemoval : Delta → Bool
  | .remove _ => true
  | _ => false

/-- A change without a type renames and moves the folder that it finds. -/
def isUntyped : Delta → Bool
  | .change e => e.type.isNone
  | _ => false

theorem id_of_entry? {d : Delta} {e : Entry} (h : d.entry? = some e) : e.id = d.id := by
  cases d <;> cases h <;> rfl

/-- The ways in which a change acts on the record under its id. -/
inductive Acts (d : Delta) : Prop
  | removes (removal : d.isRemoval = true) (role : d.role? = none) (untyped : d.isUntyped = false)
      (acts : ∀ x, d.settle x = none)
  | files (e : Entry) (role : FolderRole) (removal : d.isRemoval = false)
      (entry : d.entry? = some e) (stated : d.role? = some role)
      (acts : ∀ x, d.settle x = some (e.record role))
  | renames (e : Entry) (removal : d.isRemoval = false) (entry : d.entry? = some e)
      (role : d.role? = none) (untyped : d.isUntyped = true)
      (acts : ∀ x, d.settle x = x.map fun old => e.record old.role)
  | passes (removal : d.isRemoval = false) (role : d.role? = none) (untyped : d.isUntyped = false)
      (acts : ∀ x, d.settle x = x)

theorem acts (d : Delta) : d.Acts := by
  cases d with
  | add e =>
    cases he : e.role? with
    | none => exact .passes rfl he rfl fun x => by simp only [settle, he]
    | some role => exact .files e role rfl rfl he fun x => by simp only [settle, he]
  | change e =>
    cases ht : e.type with
    | none =>
      have hr : e.role? = none := by rw [Entry.role?, ht, Option.bind_none]
      exact .renames e rfl rfl hr (by rw [isUntyped, ht]; rfl) fun x => by simp only [settle, ht]
    | some code =>
      have hu : isUntyped (.change e) = false := by rw [isUntyped, ht]; rfl
      cases he : e.role? with
      | none => exact .passes rfl he hu fun x => by simp only [settle, ht, he]
      | some role => exact .files e role rfl rfl he fun x => by simp only [settle, ht, he]
  | remove i => exact .removes rfl rfl rfl fun _ => rfl

/-- What a change makes of the record under any id. -/
def applyOf (id : String) (d : Delta) (x : Option FolderRecord) : Option FolderRecord :=
  if d.id = id then d.settle x else x

theorem getElem?_apply_self (d : Delta) (m : Records) : (apply m d)[d.id]? = d.settle m[d.id]? := by
  cases d with
  | add e =>
    simp only [apply, settle, Delta.id]
    cases e.role? with
    | none => rfl
    | some role => exact Std.ExtTreeMap.getElem?_insert_self
  | change e =>
    simp only [apply, settle, Delta.id]
    cases e.type with
    | none => exact Std.ExtTreeMap.getElem?_modify_self
    | some code =>
      cases e.role? with
      | none => rfl
      | some role => exact Std.ExtTreeMap.getElem?_insert_self
  | remove i => exact Std.ExtTreeMap.getElem?_erase_self

theorem getElem?_apply_of_ne {d : Delta} {id : String} (h : d.id ≠ id) (m : Records) :
    (apply m d)[id]? = m[id]? := by
  have hc : ¬compare d.id id = .eq := fun hc => h (Std.compare_eq_iff_eq.mp hc)
  cases d with
  | add e =>
    simp only [apply]
    cases e.role? with
    | none => rfl
    | some role => exact Std.ExtTreeMap.getElem?_insert.trans (if_neg hc)
  | change e =>
    simp only [apply]
    cases e.type with
    | none => exact Std.ExtTreeMap.getElem?_modify.trans (if_neg hc)
    | some code =>
      cases e.role? with
      | none => rfl
      | some role => exact Std.ExtTreeMap.getElem?_insert.trans (if_neg hc)
  | remove i => exact Std.ExtTreeMap.getElem?_erase.trans (if_neg hc)

theorem getElem?_apply (d : Delta) (m : Records) (id : String) :
    (apply m d)[id]? = d.applyOf id m[id]? := by
  unfold applyOf
  split_ifs with h
  · rw [← h, d.getElem?_apply_self]
  · exact getElem?_apply_of_ne h m

theorem settles_settle (d : Delta) : Settles Renames d.settle := by
  cases d.acts with
  | removes _ _ _ hacts => exact .inl ⟨none, hacts⟩
  | files e role _ _ _ hacts => exact .inl ⟨some (e.record role), hacts⟩
  | renames e _ _ _ _ hacts => exact .inr ⟨_, .inr ⟨e, rfl⟩, hacts⟩
  | passes _ _ _ hacts => exact .of_keeps overwriting_renames hacts

theorem settles_applyOf (id : String) (d : Delta) : Settles Renames fun x => d.applyOf id x := by
  unfold applyOf
  split_ifs
  · exact d.settles_settle
  · exact .of_keeps overwriting_renames fun x => rfl

/-- A change puts in place what was there or a record made from the words of the server. -/
theorem of_settle {P : FolderRecord → Prop} (d : Delta)
    (hunder : ∀ name role parent, P (.under d.id name role parent)) {x : Option FolderRecord}
    (hx : ∀ r, x = some r → P r) {r : FolderRecord} (h : d.settle x = some r) : P r := by
  cases d.acts with
  | removes _ _ _ hacts =>
    rw [hacts] at h
    cases h
  | files e role _ hentry _ hacts =>
    rw [hacts] at h
    rw [← Option.some.inj h, Entry.record, id_of_entry? hentry]
    exact hunder e.name role e.parent
  | renames e _ hentry _ _ hacts =>
    rw [hacts] at h
    obtain ⟨old, -, rfl⟩ := Option.map_eq_some_iff.mp h
    rw [Entry.record, id_of_entry? hentry]
    exact hunder e.name old.role e.parent
  | passes _ _ _ hacts =>
    rw [hacts] at h
    exact hx r h

end Delta

/-- What a batch makes of the record under an id. -/
def Batch.replayOf (id : String) (b : Batch) (x : Option FolderRecord) : Option FolderRecord :=
  b.deltas.foldl (fun x d => d.applyOf id x) (if b.reset then Option.none else x)

theorem Batch.getElem?_replay (b : Batch) (m : Records) (id : String) :
    (b.replay m)[id]? = b.replayOf id m[id]? := by
  have hfold (ds : List Delta) (t : Records) :
      (ds.foldl Delta.apply t)[id]? = ds.foldl (fun x d => d.applyOf id x) t[id]? := by
    induction ds generalizing t with
    | nil => rfl
    | cons d ds ih => rw [List.foldl_cons, ih, d.getElem?_apply, List.foldl_cons]
  rw [replay, hfold, replayOf]
  congr 1
  split_ifs
  · exact Std.ExtTreeMap.getElem?_empty
  · rfl

theorem Batch.settles_replayOf (id : String) (b : Batch) :
    Settles Renames fun x => b.replayOf id x := by
  unfold replayOf
  split_ifs
  · exact .inl ⟨_, fun x => rfl⟩
  · exact Settles.foldl overwriting_renames fun d _ => d.settles_applyOf id

theorem Batch.replayOf_replayOf (id : String) (b : Batch) (x : Option FolderRecord) :
    b.replayOf id (b.replayOf id x) = b.replayOf id x :=
  (b.settles_replayOf id).idem overwriting_renames x

namespace Records

/-- Every record is filed under its own id. -/
def Keyed (m : Records) : Prop := ∀ (id : String) (r : FolderRecord), m[id]? = some r → r.id = id

theorem mem_iff {m : Records} {id : String} : id ∈ m ↔ ∃ r, m[id]? = some r := by
  rw [Std.ExtTreeMap.mem_iff_isSome_getElem?, Option.isSome_iff_exists]

theorem not_mem_iff {m : Records} {id : String} : id ∉ m ↔ m[id]? = none := by
  rw [Std.ExtTreeMap.mem_iff_isSome_getElem?, Option.not_isSome_iff_eq_none]

/-- The records of a mailbox by id. -/
def of (m : Memory) : Records := ofList m.records

theorem getElem?_foldl_insert {id : String} {x : Option FolderRecord} (l : List FolderRecord)
    (t : Records) (h : ∀ r ∈ l, r.id = id → x = some r)
    (ht : t[id]? = x ∨ ∃ r ∈ l, r.id = id) :
    (l.foldl (fun t r => t.insert r.id r) t)[id]? = x := by
  induction l generalizing t with
  | nil =>
    rcases ht with ht | ⟨r, hr, -⟩
    · exact ht
    · cases hr
  | cons r l ih =>
    rw [List.foldl_cons]
    refine ih _ (fun r' hr' => h r' (List.mem_cons_of_mem r hr')) ?_
    rw [Std.ExtTreeMap.getElem?_insert]
    simp only [Std.compare_eq_iff_eq]
    split_ifs with hid
    · exact .inl (h r List.mem_cons_self hid).symm
    · rcases ht with ht | ⟨r', hr', hid'⟩
      · exact .inl ht
      · rcases List.mem_cons.mp hr' with rfl | hr'
        · exact absurd hid' hid
        · exact .inr ⟨r', hr', hid'⟩

theorem getElem?_of {m : Memory} (hm : m.Keyed) (id : String) :
    (of m)[id]? = m.folders[id]?.map (·.record) := by
  refine getElem?_foldl_insert m.records ∅ ?_ ?_
  · intro r hr hid
    obtain ⟨key, f, hf, rfl⟩ := Memory.mem_records.mp hr
    rw [← hid, hm key f hf, hf, Option.map_some]
  · cases hf : m.folders[id]? with
    | none => exact .inl Std.ExtTreeMap.getElem?_empty
    | some f => exact .inr ⟨f.record, Memory.mem_records.mpr ⟨id, f, hf, rfl⟩, hm id f hf⟩

theorem keyed_of (m : Memory) : (of m).Keyed := by
  have hfold (l : List FolderRecord) {t : Records} (ht : t.Keyed) :
      (l.foldl (fun t r => t.insert r.id r) t).Keyed := by
    induction l generalizing t with
    | nil => exact ht
    | cons r l ih =>
      refine ih fun id f hf => ?_
      rw [Std.ExtTreeMap.getElem?_insert] at hf
      split_ifs at hf with hc
      · rw [← Option.some.inj hf]
        exact Std.compare_eq_iff_eq.mp hc
      · exact ht id f hf
  refine hfold m.records fun id r hr => ?_
  rw [Std.ExtTreeMap.getElem?_empty] at hr
  cases hr

section
variable {P : String → FolderRecord → Prop} {m : Records}
  (hunder : ∀ id name role parent, P id (.under id name role parent))
include hunder

theorem of_apply (h : ∀ (id : String) r, m[id]? = some r → P id r) (d : Delta) :
    ∀ (id : String) r, (d.apply m)[id]? = some r → P id r := by
  intro id r hr
  rw [d.getElem?_apply] at hr
  unfold Delta.applyOf at hr
  split_ifs at hr with hid
  · rw [← hid] at hr ⊢
    exact d.of_settle (hunder d.id) (h d.id) hr
  · exact h id r hr

/-- What holds of the records before and of all that a server describes holds of the records
after. -/
theorem of_replay (h : ∀ (id : String) r, m[id]? = some r → P id r) (b : Batch) :
    ∀ (id : String) r, (b.replay m)[id]? = some r → P id r := by
  have hfold (ds : List Delta) {t : Records} (ht : ∀ (id : String) r, t[id]? = some r → P id r) :
      ∀ (id : String) r, (ds.foldl Delta.apply t)[id]? = some r → P id r := by
    induction ds generalizing t with
    | nil => exact ht
    | cons d ds ih => exact ih (of_apply hunder ht d)
  unfold Batch.replay
  split_ifs
  · refine hfold _ fun id r hr => ?_
    rw [Std.ExtTreeMap.getElem?_empty] at hr
    cases hr
  · exact hfold _ h

end

theorem Keyed.replay {m : Records} (h : m.Keyed) (b : Batch) : (b.replay m).Keyed :=
  of_replay (fun _ _ _ _ => rfl) h b

end Records
end MailSync.Hierarchy
