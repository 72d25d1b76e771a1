import Mathlib.Data.List.Basic

/-!
# Overwriting

A change of one entry of a map settles it if it forgets what was there, or else changes what is
there in place, by a change that overwrites: made twice, it is as if made once, and one after
another is one again. A list of such changes can be begun, broken off and made again from the
start without a trace.
-/
namespace MailSync

variable {α ι : Type}

/-- Steps that all pass by what is there leave it alone. -/
theorem foldl_of_passing {f : α → ι → α} {l : List ι} (h : ∀ i ∈ l, ∀ x, f x i = x) (x : α) :
    l.foldl f x = x :=
  (List.foldl_ext f (fun x _ => x) x fun x i hi => h i hi x).trans (List.foldl_fixed l)

/-- A kind of change whose members can be made one after another and made again. -/
structure Overwriting (P : (α → α) → Prop) : Prop where
  id : P id
  comp : ∀ {p q}, P p → P q → P (q ∘ p)
  idem : ∀ {p}, P p → ∀ x, p (p x) = p x

/-- A change of an entry that forgets it, or changes it in place if it is there. -/
def Settles (P : (α → α) → Prop) (g : Option α → Option α) : Prop :=
  (∃ c, ∀ x, g x = c) ∨ ∃ p, P p ∧ ∀ x, g x = x.map p

namespace Settles
variable {P : (α → α) → Prop} {g h : Option α → Option α}

/-- A change that passes every entry by. -/
theorem of_keeps (hP : Overwriting P) (h : ∀ x, g x = x) : Settles P g :=
  .inr ⟨_, hP.id, fun x => by rw [h, Option.map_id, id]⟩

theorem comp (hP : Overwriting P) (hg : Settles P g) (hh : Settles P h) : Settles P (h ∘ g) := by
  rcases hh with ⟨c, hc⟩ | ⟨q, hq, hh⟩
  · exact .inl ⟨c, fun x => hc (g x)⟩
  · rcases hg with ⟨c, hc⟩ | ⟨p, hp, hg⟩
    · exact .inl ⟨c.map q, fun x => by rw [Function.comp_apply, hc, hh]⟩
    · exact .inr ⟨q ∘ p, hP.comp hp hq, fun x => by
        rw [Function.comp_apply, hg, hh, Option.map_map]⟩

theorem idem (hP : Overwriting P) (hg : Settles P g) (x : Option α) : g (g x) = g x := by
  rcases hg with ⟨c, hc⟩ | ⟨p, hp, hg⟩
  · rw [hc, hc]
  · rw [hg (g x), hg x, Option.map_map]
    cases x with
    | none => rfl
    | some a => exact congrArg some (hP.idem hp a)

theorem foldl (hP : Overwriting P) {change : ι → Option α → Option α} {l : List ι}
    (h : ∀ i ∈ l, Settles P (change i)) : Settles P (l.foldl fun x i => change i x) := by
  induction l with
  | nil => exact of_keeps hP fun _ => rfl
  | cons i l ih =>
    exact (h i List.mem_cons_self).comp hP (ih fun j hj => h j (List.mem_cons_of_mem i hj))

/-- A list of changes that was broken off and is made again ends where it would have ended. -/
theorem foldl_foldl_take (hP : Overwriting P) {change : ι → Option α → Option α} {l : List ι}
    (h : ∀ i ∈ l, Settles P (change i)) (k : Nat) (x : Option α) :
    l.foldl (fun x i => change i x) ((l.take k).foldl (fun x i => change i x) x) =
      l.foldl (fun x i => change i x) x := by
  let f := fun x i => change i x
  have ht : Settles P fun x => (l.take k).foldl f x :=
    foldl hP fun i hi => h i (List.mem_of_mem_take hi)
  calc l.foldl f ((l.take k).foldl f x)
      = (l.take k ++ l.drop k).foldl f ((l.take k).foldl f x) := by rw [List.take_append_drop]
    _ = (l.drop k).foldl f ((l.take k).foldl f x) := by rw [List.foldl_append, ht.idem hP]
    _ = l.foldl f x := by rw [← List.foldl_append, List.take_append_drop]

end Settles
end MailSync
