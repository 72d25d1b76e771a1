import Mathlib.Data.List.Nodup
import MailSync.Relocation.Move

/-!
# What is recorded of a move

The first response for a message decides what is recorded of it, however often the message was asked
for and wherever the response stands: it is recorded as moved with its new id, to be tried again, or
refused, and never as two of these. A message that is recorded as moved stands there once.
-/
namespace MailSync

namespace MoveOutcome

theorem map_fst_put (k v : String) (l : List (String × String)) :
    (put k v l).map Prod.fst =
      if k ∈ l.map Prod.fst then l.map Prod.fst else l.map Prod.fst ++ [k] := by
  induction l with
  | nil => rfl
  | cons p l ih =>
    obtain ⟨k', v'⟩ := p
    simp only [put]
    split_ifs with hk hmem hmem
    · rw [hk, List.map_cons, List.map_cons]
    · exact absurd (by rw [hk]; exact List.mem_cons_self) hmem
    · rw [List.map_cons, ih, if_pos ((List.mem_cons.mp hmem).resolve_left (Ne.symm hk)),
        List.map_cons]
    · rw [List.map_cons, ih, if_neg fun h => hmem (List.mem_cons_of_mem _ h), List.map_cons,
        List.cons_append]

theorem nodup_put {l : List (String × String)} (h : (l.map Prod.fst).Nodup) (k v : String) :
    ((put k v l).map Prod.fst).Nodup := by
  rw [map_fst_put]
  split_ifs with hk
  · exact h
  · exact List.nodup_append.mpr ⟨h, List.nodup_singleton k, fun a ha b hb hab =>
      hk (List.mem_singleton.mp hb ▸ hab ▸ ha)⟩

/-- To put a pair in place changes what its key stands for and nothing else. -/
theorem mem_put {l : List (String × String)} (h : (l.map Prod.fst).Nodup) {k v k' v' : String} :
    (k', v') ∈ put k v l ↔ if k' = k then v' = v else (k', v') ∈ l := by
  induction l with
  | nil =>
    rw [put, List.mem_singleton, Prod.mk.injEq]
    split_ifs with hk
    · exact and_iff_right hk
    · exact iff_of_false (fun he => hk he.1) List.not_mem_nil
  | cons p l ih =>
    obtain ⟨a, b⟩ := p
    obtain ⟨hfresh, hl⟩ := List.nodup_cons.mp h
    have hkeys {v : String} : (a, v) ∉ l := fun hmem => hfresh (List.mem_map.mpr ⟨_, hmem, rfl⟩)
    simp only [put]
    by_cases ha : a = k
    · subst ha
      rw [if_pos rfl, List.mem_cons, List.mem_cons, Prod.mk.injEq, Prod.mk.injEq]
      split_ifs with hk
      · subst hk
        exact ⟨fun hm => (hm.resolve_right hkeys).2, fun hv => .inl ⟨rfl, hv⟩⟩
      · simp only [hk, false_and, false_or]
    · rw [if_neg ha, List.mem_cons, List.mem_cons, ih hl, Prod.mk.injEq]
      split_ifs with hk
      · subst hk
        exact or_iff_right fun he => ha he.1.symm
      · exact Iff.rfl

end MoveOutcome

namespace Relocation

/-- The new id that the first response for a message confirms. -/
def confirmed? (responses : List Response) (id : String) : Option String :=
  (responses.find? (·.message = id)).bind fun r =>
    if r.itemStatus = .success then r.newId else none

/-- Whether the first response for a message refuses to move it. -/
def isRefused (responses : List Response) (id : String) : Bool :=
  (responses.find? (·.message = id)).any fun r => r.itemStatus = .revert

theorem itemStatus_eq_success_iff {status : UInt32} :
    itemStatus status = .success ↔ status = 3 ∨ status = 4 ∨ status = 6 := by
  unfold itemStatus
  split_ifs with hmoved hlocked
  · exact iff_of_true rfl hmoved
  · exact iff_of_false nofun hmoved
  · exact iff_of_false nofun hmoved

/-- A confirmation is the first response for the message, a success with a new id. -/
theorem confirmed?_eq_some_iff {responses : List Response} {id newId : String} :
    confirmed? responses id = some newId ↔
      ∃ r, responses.find? (·.message = id) = some r ∧
        (r.status = 3 ∨ r.status = 4 ∨ r.status = 6) ∧ r.newId = some newId := by
  rw [confirmed?, Option.bind_eq_some_iff]
  refine exists_congr fun r => and_congr_right fun _ => ?_
  rw [← itemStatus_eq_success_iff, ← Response.itemStatus]
  split_ifs with h
  · exact (and_iff_right h).symm
  · exact iff_of_false nofun fun he => h he.1

theorem isRefused_of_confirmed {responses : List Response} {id newId : String}
    (h : confirmed? responses id = some newId) : isRefused responses id = false := by
  obtain ⟨r, hr, hstatus, -⟩ := confirmed?_eq_some_iff.mp h
  rw [isRefused, hr, Option.any_some, Response.itemStatus, itemStatus_eq_success_iff.mpr hstatus]
  rfl

/-- What is recorded of a message, by its first response alone. -/
theorem record_eq (responses : List Response) (o : MoveOutcome) (id : String) :
    record responses o id =
      match confirmed? responses id, isRefused responses id with
      | some newId, _ => o.recordMoved id newId
      | none, true => { o with revert := o.revert ++ [id] }
      | none, false => { o with retry := o.retry ++ [id] } := by
  unfold record confirmed? isRefused
  generalize responses.find? (·.message = id) = found
  cases found with
  | none => rfl
  | some r =>
    dsimp only [Option.bind_some, Option.any_some]
    generalize r.itemStatus = verdict
    cases verdict <;> cases r.newId <;> rfl

/-- An outcome that sorts the messages asked for by their responses. -/
structure Sorts (responses : List Response) (ids : List String) (o : MoveOutcome) : Prop where
  keys : (o.moved.map Prod.fst).Nodup
  moved : ∀ id newId, (id, newId) ∈ o.moved ↔ id ∈ ids ∧ confirmed? responses id = some newId
  retry : o.retry =
    ids.filter fun id => (confirmed? responses id).isNone && !isRefused responses id
  revert : o.revert = ids.filter fun id => isRefused responses id

variable {responses : List Response} {ids : List String} {o : MoveOutcome}

/-- One more message, which may have been asked for before. -/
theorem Sorts.record (h : Sorts responses ids o) (id : String) :
    Sorts responses (ids ++ [id]) (record responses o id) := by
  rw [record_eq]
  cases hc : confirmed? responses id with
  | some newId =>
    have hr := isRefused_of_confirmed hc
    refine ⟨MoveOutcome.nodup_put h.keys id newId, fun i n => ?_, ?_, ?_⟩
    · simp only [MoveOutcome.recordMoved, MoveOutcome.mem_put h.keys, h.moved, List.mem_append,
        List.mem_singleton]
      split_ifs with hi
      · rw [hi, hc, Option.some.injEq, and_iff_right (.inr rfl)]
        exact eq_comm
      · rw [or_iff_left hi]
    · simp [MoveOutcome.recordMoved, h.retry, hc]
    · simp [MoveOutcome.recordMoved, h.revert, hr]
  | none =>
    have hmoved (i n : String) : (i, n) ∈ o.moved ↔
        i ∈ ids ++ [id] ∧ confirmed? responses i = some n := by
      rw [h.moved, List.mem_append, List.mem_singleton]
      refine and_congr_left fun hn => (or_iff_left ?_).symm
      rintro rfl
      exact nomatch hc.symm.trans hn
    cases hr : isRefused responses id with
    | true => exact ⟨h.keys, hmoved, by simp [h.retry, hc, hr], by simp [h.revert, hr]⟩
    | false => exact ⟨h.keys, hmoved, by simp [h.retry, hc, hr], by simp [h.revert, hr]⟩

/-- All messages asked for are sorted. -/
theorem sorts_outcomeOf (responses : List Response) (ids : List String) :
    Sorts responses ids (outcomeOf responses ids) := by
  have hfold (done : List String) (o : MoveOutcome) (h : Sorts responses done o) :
      Sorts responses (done ++ ids) (ids.foldl (Relocation.record responses) o) := by
    induction ids generalizing done o with
    | nil => rwa [List.append_nil]
    | cons id ids ih =>
      rw [List.append_cons]
      exact ih (done ++ [id]) _ (h.record id)
  refine hfold [] .none ⟨List.nodup_nil, fun _ _ => ?_, rfl, rfl⟩
  exact iff_of_false List.not_mem_nil fun hi => List.not_mem_nil hi.1

/-- Without any response all messages are to be tried again. -/
theorem sorts_unanswered (ids : List String) : Sorts [] ids ⟨[], ids, []⟩ where
  keys := List.nodup_nil
  moved _ _ := iff_of_false List.not_mem_nil nofun
  retry := (List.filter_eq_self.mpr fun _ _ => rfl).symm
  revert := (List.filter_eq_nil_iff.mpr fun _ _ => Bool.false_ne_true).symm

theorem Sorts.mem_moved (h : Sorts responses ids o) {id : String} (hid : id ∈ ids) :
    id ∈ o.moved.map Prod.fst ↔ (confirmed? responses id).isSome = true := by
  rw [List.mem_map, Option.isSome_iff_exists]
  constructor
  · rintro ⟨⟨i, n⟩, hn, rfl⟩
    exact ⟨n, ((h.moved i n).mp hn).2⟩
  · rintro ⟨n, hn⟩
    exact ⟨(id, n), (h.moved id n).mpr ⟨hid, hn⟩, rfl⟩

/-- Of three statements one holds and the others do not. -/
def ExactlyOne (p q r : Prop) : Prop := p ∧ ¬q ∧ ¬r ∨ ¬p ∧ q ∧ ¬r ∨ ¬p ∧ ¬q ∧ r

/-- Each message asked for is in one place of the outcome. -/
theorem Sorts.exactlyOne (h : Sorts responses ids o) {id : String} (hid : id ∈ ids) :
    ExactlyOne (id ∈ o.moved.map Prod.fst) (id ∈ o.retry) (id ∈ o.revert) := by
  rw [ExactlyOne, h.mem_moved hid, h.retry, h.revert]
  cases hc : confirmed? responses id with
  | some newId =>
    have hr := isRefused_of_confirmed hc
    exact .inl ⟨rfl, by simp [hc], by simp [hr]⟩
  | none => cases hr : isRefused responses id <;> simp [hid, hc, hr]

end Relocation
end MailSync
