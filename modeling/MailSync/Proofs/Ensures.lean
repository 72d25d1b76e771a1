import MailSync.Proofs.Run

/-!
# What an operation ensures

From a given world an operation ends well, and then one thing holds of its value and its last
world, or it fails, and then another holds of its error. Such statements are put together along
the operation, with one rule for each way to build one.
-/
namespace MailSync
open Mailbox (Medium)

variable {σ α β : Type}

namespace Operation

/-- From a world the operation ends with one thing, or fails with the other. -/
def Ensures [Medium σ] (op : Operation α) (s : Surroundings σ) (w : World σ)
    (Q : α → World σ → Prop) (E : SyncError → World σ → Prop) : Prop :=
  match op.runIn s w with
  | (.ok a, w') => Q a w'
  | (.error e, w') => E e w'

namespace Ensures

section
variable [Medium σ] {s : Surroundings σ} {w w' : World σ} {op : Operation α}
  {Q R : α → World σ → Prop} {E F : SyncError → World σ → Prop}

theorem of_run (h : ∀ r w', op.runIn s w = (r, w') →
    match r with
    | .ok a => Q a w'
    | .error e => E e w') : Ensures op s w Q E := by
  unfold Ensures
  rcases hr : op.runIn s w with ⟨_ | a, w'⟩
  · exact h _ _ hr
  · exact h _ _ hr

theorem ok (h : Ensures op s w Q E) {a : α} (hr : op.runIn s w = (.ok a, w')) : Q a w' := by
  unfold Ensures at h
  rw [hr] at h
  exact h

theorem error (h : Ensures op s w Q E) {e : SyncError} (hr : op.runIn s w = (.error e, w')) :
    E e w' := by
  unfold Ensures at h
  rw [hr] at h
  exact h

theorem of_ok {a : α} (hr : op.runIn s w = (.ok a, w')) (h : Q a w') : Ensures op s w Q E := by
  unfold Ensures
  rw [hr]
  exact h

theorem pure {a : α} (h : Q a w) : Ensures (pure a) s w Q E := h

theorem throw {e : SyncError} (h : E e w) : Ensures (throw e : Operation α) s w Q E := h

theorem mono (h : Ensures op s w R F) (hQ : ∀ a w', R a w' → Q a w')
    (hE : ∀ e w', F e w' → E e w') : Ensures op s w Q E := by
  refine of_run fun r w' hr => ?_
  cases r with
  | ok a => exact hQ a w' (h.ok hr)
  | error e => exact hE e w' (h.error hr)

/-- What holds of the last world however the operation ends. -/
theorem always {P : World σ → Prop} (h : Ensures op s w (fun _ v => P v) fun _ v => P v) :
    P (op.runIn s w).2 := by
  rcases hr : op.runIn s w with ⟨_ | a, w'⟩
  · exact h.error hr
  · exact h.ok hr

theorem of_always {P : World σ → Prop} (h : P (op.runIn s w).2) :
    Ensures op s w (fun _ v => P v) fun _ v => P v := by
  refine of_run fun r w' hr => ?_
  rw [hr] at h
  cases r with
  | ok a => exact h
  | error e => exact h

/-- An operation that ends well may be known by its run. -/
theorem running (h : Ensures op s w Q E) :
    Ensures op s w (fun a v => Q a v ∧ op.runIn s w = (.ok a, v)) E := by
  refine of_run fun r w' hr => ?_
  cases r with
  | ok a => exact ⟨h.ok hr, hr⟩
  | error e => exact h.error hr

/-- What holds of the last world in any case may be known besides. -/
theorem and_always {P : World σ → Prop} (h : Ensures op s w Q E) (hP : P (op.runIn s w).2) :
    Ensures op s w (fun a v => Q a v ∧ P v) fun e v => E e v ∧ P v := by
  refine of_run fun r w' hr => ?_
  rw [hr] at hP
  cases r with
  | ok a => exact ⟨h.ok hr, hP⟩
  | error e => exact ⟨h.error hr, hP⟩

/-- How the operation ends and how it fails may be known apart. -/
theorem failing (h : Ensures op s w Q E) (h' : Ensures op s w R F) : Ensures op s w Q F := by
  refine of_run fun r w' hr => ?_
  cases r with
  | ok a => exact h.ok hr
  | error e => exact h'.error hr

theorem bind {f : α → Operation β} {Q : β → World σ → Prop} (h : Ensures op s w R E)
    (hf : ∀ a w', R a w' → Ensures (f a) s w' Q E) : Ensures (op >>= f) s w Q E := by
  unfold Ensures
  rw [runIn_bind]
  rcases hr : op.runIn s w with ⟨e | a, w'⟩
  · exact h.error hr
  · exact hf a w' (h.ok hr)

theorem bind_ok {f : α → Operation β} {Q : β → World σ → Prop} {a : α}
    (hr : op.runIn s w = (.ok a, w')) (hf : Ensures (f a) s w' Q E) :
    Ensures (op >>= f) s w Q E := by
  unfold Ensures at hf ⊢
  rw [runIn_bind_ok hr]
  exact hf

/-- A failure is not the end of it. -/
theorem recover {f : SyncError → Operation α} (h : Ensures op s w Q F)
    (hf : ∀ e w', F e w' → Ensures (f e) s w' Q E) : Ensures (tryCatch op f) s w Q E := by
  unfold Ensures
  rw [runIn_tryCatch]
  rcases hr : op.runIn s w with ⟨e | a, w'⟩
  · exact hf e w' (h.error hr)
  · exact h.ok hr

theorem discard {Q : Unit → World σ → Prop} (h : Ensures op s w (fun _ => Q ()) E) :
    Ensures (discard op) s w Q E := by
  refine of_run fun r w' hr => ?_
  rw [runIn_discard] at hr
  rcases ho : op.runIn s w with ⟨e | a, v⟩
  · rw [ho] at hr
    obtain ⟨rfl, rfl⟩ := Prod.mk.inj hr
    exact h.error ho
  · rw [ho] at hr
    obtain ⟨rfl, rfl⟩ := Prod.mk.inj hr
    exact h.ok ho

/-- Whatever comes of an operation is a value to go on with. -/
theorem attempt {Q : α → World σ → Prop} {F : SyncError → World σ → Prop} (h : Ensures op s w Q F) :
    Ensures (ofProgram op.run) s w
      (fun r v => match r with
        | .ok a => Q a v
        | .error e => F e v) E := by
  refine of_ok (runIn_ofProgram ..) ?_
  change match (op.runIn s w).1 with
    | .ok a => Q a (op.runIn s w).2
    | .error e => F e (op.runIn s w).2
  rcases hr : op.runIn s w with ⟨e | a, v⟩
  · exact h.error hr
  · exact h.ok hr

theorem checkCancelled {Q : Unit → World σ → Prop} (hQ : ∀ c, Q () { w with cancelled := c })
    (hE : ∀ c, E .cancelled { w with cancelled := c }) : Ensures checkCancelled s w Q E := by
  refine of_run fun r w' hr => ?_
  rw [runIn_checkCancelled] at hr
  obtain ⟨rfl, rfl⟩ := Prod.mk.inj hr
  by_cases h : w.cancelled || s.cancels w
  · rw [if_pos h]
    exact hE _
  · rw [if_neg h]
    exact hQ _

theorem withLock {lock : String} (hheld : E (.syncInProgress lock) w)
    (hfree : ∀ locks, w.locks.acquire? lock = some locks →
      Ensures op s { w with locks } (fun a v => Q a { v with locks := v.locks.release lock })
        fun e v => E e { v with locks := v.locks.release lock }) :
    Ensures (withLock lock op) s w Q E := by
  cases hl : w.locks.acquire? lock with
  | none =>
    unfold Ensures
    rw [runIn_withLock_held hl]
    exact hheld
  | some locks =>
    have h := hfree locks hl
    refine of_run fun r w' hr => ?_
    rw [runIn_withLock_free hl] at hr
    rcases ho : op.runIn s { w with locks } with ⟨e | a, v⟩
    · rw [ho] at hr
      obtain ⟨rfl, rfl⟩ := Prod.mk.inj hr
      exact h.error ho
    · rw [ho] at hr
      obtain ⟨rfl, rfl⟩ := Prod.mk.inj hr
      exact h.ok ho

end

end Ensures
end Operation
end MailSync
