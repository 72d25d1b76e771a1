import Mathlib.Data.List.Induction
import MailSync.Proofs.Hierarchy.Replay

/-!
# The last change decides

What stands under an id after changes were replayed can be told from the changes about this id
alone, by looking back from the end. The last one that takes the folder out or states a mail role
for it decides whether there is a record, and the last one that states a role decides the role. Name
and parent come from the last change that stated a role, or that had no type and found a folder to
rename. Which folder it finds is in turn decided by what stands before it in the list.
-/
namespace MailSync.Hierarchy

/-- The records after changes in a row. -/
def replay (ds : List Delta) (m : Records) : Records := ds.foldl Delta.apply m

theorem replay_concat (ds : List Delta) (d : Delta) (m : Records) :
    replay (ds ++ [d]) m = d.apply (replay ds m) := by
  simp only [replay, List.foldl_append, List.foldl_cons, List.foldl_nil]

/-- Looking back over changes told from the last one, the first that passes a test. The test may go
by the changes before it. -/
def lookBack (p : List Delta → Delta → Bool) : List Delta → Option Delta
  | [] => none
  | d :: earlier => if p earlier.reverse d then some d else lookBack p earlier

/-- The last change that passes a test, given the changes before it. -/
def last? (p : List Delta → Delta → Bool) (ds : List Delta) : Option Delta := lookBack p ds.reverse

theorem last?_concat (p : List Delta → Delta → Bool) (ds : List Delta) (d : Delta) :
    last? p (ds ++ [d]) = if p ds d then some d else last? p ds := by
  simp only [last?, List.reverse_append, List.reverse_cons, List.reverse_nil, List.nil_append,
    List.singleton_append, lookBack, List.reverse_reverse]

namespace Delta

/-- A change with the type of a folder without mail, or an added folder without any type. -/
def isUnmapped (d : Delta) : Bool := d.entry?.isSome && d.role?.isNone && !d.isUntyped

/-- How there comes to be a record under an id after a change. -/
inductive Yields (id : String) (d : Delta) (x : Option FolderRecord) (r : FolderRecord) : Prop
  | files (e : Entry) (about : d.id = id) (entry : d.entry? = some e)
      (stated : d.role? = some r.role) (eq : r = e.record r.role)
  | renames (e : Entry) (old : FolderRecord) (about : d.id = id) (entry : d.entry? = some e)
      (role : d.role? = none) (untyped : d.isUntyped = true) (found : x = some old)
      (kept : old.role = r.role) (eq : r = e.record r.role)
  | passes (idle : d.id ≠ id ∨ d.role? = none ∧ d.isUntyped = false) (found : x = some r)

theorem yields {id : String} {d : Delta} {x : Option FolderRecord} {r : FolderRecord}
    (h : d.applyOf id x = some r) : d.Yields id x r := by
  rw [applyOf] at h
  split_ifs at h with hid
  · cases d.acts with
    | removes _ _ _ hacts =>
      rw [hacts] at h
      cases h
    | files e role _ hentry hstated hacts =>
      rw [hacts] at h
      cases h
      exact .files e hid hentry hstated rfl
    | renames e _ hentry hrole huntyped hacts =>
      rw [hacts] at h
      obtain ⟨old, hold, rfl⟩ := Option.map_eq_some_iff.mp h
      exact .renames e old hid hentry hrole huntyped hold rfl rfl
    | passes _ hrole huntyped hacts =>
      rw [hacts] at h
      exact .passes (.inr ⟨hrole, huntyped⟩) h
  · exact .passes (.inl hid) h

/-- A change of an unmapped type does nothing to any record. -/
theorem apply_of_isUnmapped {d : Delta} (h : d.isUnmapped = true) (m : Records) :
    d.apply m = m := by
  simp only [isUnmapped, Bool.and_eq_true, Bool.not_eq_true'] at h
  obtain ⟨⟨hentry, hrole⟩, huntyped⟩ := h
  apply Std.ExtTreeMap.ext_getElem?
  intro id
  rw [getElem?_apply, applyOf]
  split_ifs with hid
  · cases d.acts with
    | removes hr _ _ _ => cases d <;> contradiction
    | files e role _ _ hstated _ => rw [hstated] at hrole; cases hrole
    | renames e _ _ _ hu _ => rw [hu] at huntyped; cases huntyped
    | passes _ _ _ hacts => exact hacts _
  · rfl

end Delta

section
variable (m : Records) (id : String)

/-! ### The changes that count -/

/-- A change that decides whether the folder is there. -/
def decides (_ : List Delta) (d : Delta) : Bool := d.id = id && (d.isRemoval || d.role?.isSome)

/-- Whether the folder is there after changes: the last one that decides is no removal, or there is
none and it was there before. -/
def stands (ds : List Delta) : Bool :=
  match last? (decides id) ds with
  | some d => !d.isRemoval
  | none => m[id]?.isSome

/-- A change that states the role of the folder. -/
def casts (_ : List Delta) (d : Delta) : Bool := d.id = id && d.role?.isSome

/-- A change that gives the folder its name and parent: it states a role, or has no type and comes
while the folder is there. -/
def describes (before : List Delta) (d : Delta) : Bool :=
  d.id = id && (d.role?.isSome || d.isUntyped && stands m id before)

/-! ### One change more -/

theorem stands_concat (ds : List Delta) (d : Delta) :
    stands m id (ds ++ [d]) = if decides id ds d then !d.isRemoval else stands m id ds := by
  simp only [stands, last?_concat]
  split_ifs <;> rfl

theorem getElem?_replay_concat (ds : List Delta) (d : Delta) :
    (replay (ds ++ [d]) m)[id]? = d.applyOf id (replay ds m)[id]? := by
  rw [replay_concat, Delta.getElem?_apply]

/-- There is a record exactly where the folder stands by its last deciding change. -/
theorem isSome_replay (ds : List Delta) : (replay ds m)[id]?.isSome = stands m id ds := by
  induction ds using List.reverseRecOn with
  | nil => rfl
  | append_singleton ds d ih =>
    rw [getElem?_replay_concat, stands_concat, Delta.applyOf]
    simp only [decides]
    by_cases hid : d.id = id
    · cases d.acts with
      | removes hr _ _ hacts => simp [hid, hr, hacts]
      | files e role hr _ hstated hacts => simp [hid, hr, hstated, hacts]
      | renames e hr _ hrole _ hacts => simp [hid, hr, hrole, hacts, ih]
      | passes hr hrole _ hacts => simp [hid, hr, hrole, hacts, ih]
    · simp [hid, ih]

/-- What holds of a record by the last change that passes a test: each change that passes it makes
it so, and any other leaves a record of which it held before. -/
theorem last?_of_replay {p : List Delta → Delta → Bool} {Q : Option Delta → FolderRecord → Prop}
    (start : ∀ r, m[id]? = some r → Q none r)
    (step : ∀ ds d r, d.applyOf id (replay ds m)[id]? = some r →
      if p ds d then Q (some d) r
      else ∃ old, (replay ds m)[id]? = some old ∧ ∀ found, Q found old → Q found r)
    {ds : List Delta} {r : FolderRecord} (h : (replay ds m)[id]? = some r) : Q (last? p ds) r := by
  induction ds using List.reverseRecOn generalizing r with
  | nil => exact start r h
  | append_singleton ds d ih =>
    rw [getElem?_replay_concat] at h
    have hstep := step ds d r h
    rw [last?_concat]
    split_ifs at hstep ⊢
    · exact hstep
    · obtain ⟨old, hold, hfound⟩ := hstep
      exact hfound _ (ih hold)

/-- The role of a record is the last one that was stated, or the one it had before. -/
theorem role_replay {ds : List Delta} {r : FolderRecord} (h : (replay ds m)[id]? = some r) :
    match last? (casts id) ds with
    | some d => d.role? = some r.role
    | none => m[id]?.map (·.role) = some r.role := by
  apply last?_of_replay m id (Q := fun found r => match found with
    | some d => d.role? = some r.role
    | none => m[id]?.map (·.role) = some r.role) (fun r hr => congrArg (Option.map _) hr) ?_ h
  intro ds d r hd
  cases Delta.yields hd with
  | files e hid _ hstated _ =>
    rw [if_pos (by simp [casts, hid, hstated])]
    exact hstated
  | renames e old hid _ hrole _ hold hkept _ =>
    rw [if_neg (by simp [casts, hrole])]
    exact ⟨old, hold, fun _ hfound => hkept ▸ hfound⟩
  | passes hidle hold =>
    have hcasts : ¬casts id ds d = true := by
      rcases hidle with hid | ⟨hrole, -⟩
      · simp [casts, hid]
      · simp [casts, hrole]
    rw [if_neg hcasts]
    exact ⟨r, hold, fun _ hfound => hfound⟩

/-- Name and parent of a record are those of the last change that describes the folder. Without one
the record is the one that was there before. -/
theorem record_replay {ds : List Delta} {r : FolderRecord} (h : (replay ds m)[id]? = some r) :
    match last? (describes m id) ds with
    | some d => ∃ e, d.entry? = some e ∧ e.id = id ∧ r = e.record r.role
    | none => m[id]? = some r := by
  apply last?_of_replay m id (Q := fun found r => match found with
    | some d => ∃ e, d.entry? = some e ∧ e.id = id ∧ r = e.record r.role
    | none => m[id]? = some r) (fun r hr => hr) ?_ h
  intro ds d r hd
  cases Delta.yields hd with
  | files e hid hentry hstated heq =>
    have hdescribes : describes m id ds d = true := by simp [describes, hid, hstated]
    rw [if_pos hdescribes]
    exact ⟨e, hentry, (Delta.id_of_entry? hentry).trans hid, heq⟩
  | renames e old hid hentry _ huntyped hold _ heq =>
    -- The test asks what the changes before it say; that the folder was found says the same.
    have hstands : stands m id ds = true := by rw [← isSome_replay, hold, Option.isSome_some]
    have hdescribes : describes m id ds d = true := by simp [describes, hid, huntyped, hstands]
    rw [if_pos hdescribes]
    exact ⟨e, hentry, (Delta.id_of_entry? hentry).trans hid, heq⟩
  | passes hidle hold =>
    have hdescribes : ¬describes m id ds d = true := by
      rcases hidle with hid | ⟨hrole, huntyped⟩
      · simp [describes, hid]
      · simp [describes, hrole, huntyped]
    rw [if_neg hdescribes]
    exact ⟨r, hold, fun _ hfound => hfound⟩

/-- Changes of other folders play no part. -/
theorem getElem?_replay_filter (ds : List Delta) :
    (replay ds m)[id]? = (replay (ds.filter (·.id = id)) m)[id]? := by
  have hfold (ds : List Delta) :
      (replay ds m)[id]? = ds.foldl (fun x d => d.applyOf id x) m[id]? :=
    Batch.getElem?_replay ⟨false, ds⟩ m id
  rw [hfold, hfold, List.foldl_filter]
  congr 1
  funext x d
  simp only [Delta.applyOf, decide_eq_true_eq]
  split_ifs <;> rfl

end

/-- After changes in a row there is no record under an id exactly if the last change about it that
removes the folder or states a mail role is a removal, or there is none and no record was there
before. A record has the role that was stated last, or the one it had; and its name and parent are
those of the last change that stated a role or came without a type while the folder was there, or it
is the record from before. Changes of unmapped types do nothing, those of other ids play no part,
and whatever keeps the order under each id comes to the same. -/
theorem last_delta_wins (m : Records) (ds : List Delta) (id : String) :
    ((replay ds m)[id]? = none ↔
      (∃ d, last? (decides id) ds = some d ∧ d.isRemoval = true) ∨
        last? (decides id) ds = none ∧ m[id]? = none) ∧
    (∀ r, (replay ds m)[id]? = some r →
      (match last? (casts id) ds with
        | some d => d.role? = some r.role
        | none => m[id]?.map (·.role) = some r.role) ∧
      match last? (describes m id) ds with
        | some d => ∃ e, d.entry? = some e ∧ r.id = id ∧ r.name = e.name ∧
          r.parent = e.parent.filter fun p => p ≠ "" && p ≠ "0"
        | none => m[id]? = some r) ∧
    (∀ d : Delta, d.isUnmapped = true → d.apply m = m) ∧
    (replay ds m)[id]? = (replay (ds.filter (·.id = id)) m)[id]? ∧
    ∀ ds', (∀ i, ds'.filter (·.id = i) = ds.filter (·.id = i)) → replay ds' m = replay ds m := by
  refine ⟨?_, fun r h => ⟨role_replay m id h, ?_⟩, fun d h => d.apply_of_isUnmapped h m,
    getElem?_replay_filter m id ds, fun ds' h => ?_⟩
  · have hstands := isSome_replay m id ds
    rw [stands] at hstands
    rw [← Option.isNone_iff_eq_none, ← Option.not_isSome, hstands]
    generalize last? (decides id) ds = found
    cases found with
    | none =>
      rw [Option.not_isSome, Option.isNone_iff_eq_none]
      simp
    | some d => simp
  · have hrecord := record_replay m id h
    generalize last? (describes m id) ds = found at hrecord
    cases found with
    | none => exact hrecord
    | some d =>
      obtain ⟨e, he, hid, hr⟩ := hrecord
      refine ⟨e, he, ?_, ?_, ?_⟩
      · rw [hr]
        exact hid
      · rw [hr]
        rfl
      · rw [hr]
        rfl
  · apply Std.ExtTreeMap.ext_getElem?
    intro i
    rw [getElem?_replay_filter m i ds', getElem?_replay_filter m i ds, h i]

/-- One folder is added, found by a change without a type and given a new name; another is only told
of before it is added, and taken out in the end. -/
def sevenKinds : List Delta :=
  [.change ⟨"7", none, "Early", none⟩, .add ⟨"5", some "0", "Inbox", some 2⟩,
    .add ⟨"7", some "5", "Notes", some 12⟩, .change ⟨"5", some "7", "Post", none⟩,
    .change ⟨"5", none, "People", some 9⟩, .change ⟨"7", some "", "Sent", some 5⟩,
    .add ⟨"8", none, "Dates", some 8⟩, .remove "7"]

theorem last_of_seven_wins :
    (replay sevenKinds ∅)["7"]? = none ∧
    (∃ r, (replay sevenKinds ∅)["5"]? = some r ∧ r.role = .inbox ∧ r.name = "Post" ∧
      r.parent = some "7") ∧
    Delta.apply (replay sevenKinds ∅) (.change ⟨"5", none, "People", some 9⟩) =
      replay sevenKinds ∅ ∧
    replay [.add ⟨"5", some "0", "Inbox", some 2⟩, .remove "7"] ∅ =
      replay [.remove "7", .add ⟨"5", some "0", "Inbox", some 2⟩] ∅ := by
  refine ⟨?_, ?_, ?_, ?_⟩
  · apply (last_delta_wins ∅ sevenKinds "7").1.mpr
    exact .inl ⟨.remove "7", by decide, rfl⟩
  · have hthere : (replay sevenKinds ∅)["5"]? ≠ none := by
      rw [Ne, (last_delta_wins ∅ sevenKinds "5").1]
      decide
    obtain ⟨r, hr⟩ := Option.ne_none_iff_exists'.mp hthere
    obtain ⟨hrole, hrecord⟩ := (last_delta_wins ∅ sevenKinds "5").2.1 r hr
    have hcast : last? (casts "5") sevenKinds = some (.add ⟨"5", some "0", "Inbox", some 2⟩) := by
      decide
    have hname : last? (describes ∅ "5") sevenKinds =
        some (.change ⟨"5", some "7", "Post", none⟩) := by
      decide
    rw [hcast] at hrole
    rw [hname] at hrecord
    obtain ⟨e, he, -, hn, hp⟩ := hrecord
    cases he
    exact ⟨r, hr, (Option.some.inj hrole).symm, hn, hp⟩
  · apply (last_delta_wins (replay sevenKinds ∅) [] "5").2.2.1
    decide
  · apply (last_delta_wins ∅ _ "5").2.2.2.2
    intro i
    by_cases h : "5" = i
    · subst h
      decide
    · simp [List.filter_cons, Delta.id, h]

end MailSync.Hierarchy
