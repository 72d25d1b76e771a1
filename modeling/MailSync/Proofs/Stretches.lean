import MailSync.Proofs.Run

/-!
# Stretches of a run

While an operation runs it comes to run its parts, each from a world that it has reached by then to
a later one. What is known of a part by itself thus holds of a stretch of the whole run.
-/
namespace MailSync
open Mailbox (Medium)

variable {σ α β γ : Type} [Medium σ] {s : Surroundings σ}

namespace Program

/-- In its run from a world a program arrives at a later one, with another program left to run. -/
inductive Arrives (s : Surroundings σ) : Program α → World σ → Program α → World σ → Prop
  | here (p : Program α) (w : World σ) : Arrives s p w p w
  | later {e : Effect} {next : e.Answer → Program α} {w v : World σ} {q : Program α}
      (h : Arrives s (next (e.perform s w).1) (e.perform s w).2 q v) :
      Arrives s (.step e next) w q v

theorem Arrives.trans {p q r : Program α} {w v u : World σ} (h : Arrives s p w q v)
    (h' : Arrives s q v r u) : Arrives s p w r u := by
  induction h with
  | here p w => exact h'
  | later _ ih => exact .later (ih h')

/-- A first part is run to its end, and then what follows it is left. -/
theorem arrives_bind (p : Program β) (f : β → Program α) (w : World σ) :
    Arrives s (p >>= f) w (f (p.run s w).1) (p.run s w).2 := by
  induction p generalizing w with
  | done a => exact .here _ w
  | step e next ih => exact .later (ih (e.perform s w).1 (e.perform s w).2)

end Program

namespace Operation

/-- In its run from a world an operation comes to run a part of it from a later one. -/
def ComesTo (op : Operation α) (s : Surroundings σ) (w : World σ) (part : Operation β)
    (v : World σ) : Prop :=
  ∃ rest : Except SyncError β → Program (Except SyncError α),
    Program.Arrives s op.run w (part.run >>= rest) v

/-- In its run from a world an operation runs a part of it from one later world to another, and goes
on from there. -/
structure Undergoes (op : Operation α) (s : Surroundings σ) (w : World σ) (part : Operation β)
    (v : World σ) (result : Except SyncError β) (u : World σ) : Prop where
  run : part.runIn s v = (result, u)
  goesOn : ∃ rest : Except SyncError β → Program (Except SyncError α),
    Program.Arrives s op.run w (part.run >>= rest) v ∧ Program.Arrives s op.run w (rest result) u

namespace ComesTo
variable {op : Operation α} {part : Operation β} {f : β → Operation γ} {w v u : World σ}

theorem start (op : Operation α) (s : Surroundings σ) (w : World σ) : op.ComesTo s w op w :=
  ⟨pure, by rw [bind_pure]; exact .here _ w⟩

theorem undergoes (h : op.ComesTo s w part v) {result : Except SyncError β}
    (hr : part.runIn s v = (result, u)) : op.Undergoes s w part v result u := by
  obtain ⟨rest, hrest⟩ := h
  have hdone := hrest.trans (Program.arrives_bind part.run rest v)
  rw [show part.run.run s v = (result, u) from hr] at hdone
  exact ⟨hr, rest, hrest, hdone⟩

/-- Of two parts in sequence the first one is run first. -/
theorem first (h : op.ComesTo s w (part >>= f) v) : op.ComesTo s w part v := by
  obtain ⟨rest, hrest⟩ := h
  refine ⟨fun r => ExceptT.bindCont f r >>= rest, ?_⟩
  rw [← bind_assoc]
  exact hrest

/-- Once the first of two parts has ended well the second one is run. -/
theorem second (h : op.ComesTo s w (part >>= f) v) {b : β} (hr : part.runIn s v = (.ok b, u)) :
    op.ComesTo s w (f b) u := by
  obtain ⟨rest, hrest⟩ := h
  have hpart : (part >>= f).run >>= rest =
      part.run >>= fun r => ExceptT.bindCont f r >>= rest := bind_assoc ..
  rw [hpart] at hrest
  have hdone := hrest.trans (Program.arrives_bind part.run _ v)
  rw [show part.run.run s v = (.ok b, u) from hr] at hdone
  exact ⟨rest, hdone⟩

/-- A part is run also where its failure is not the end of it. -/
theorem attempt (h : op.ComesTo s w (ofProgram part.run) v) : op.ComesTo s w part v := by
  obtain ⟨rest, hrest⟩ := h
  have hlift : (ofProgram part.run).run >>= rest =
      part.run >>= fun r => pure (Except.ok r) >>= rest := bind_assoc ..
  exact ⟨_, hlift ▸ hrest⟩

theorem withLock {lock : String} {locks : Locks} (hl : v.locks.acquire? lock = some locks)
    (h : op.ComesTo s w (withLock lock part) v) : op.ComesTo s w part { v with locks } := by
  obtain ⟨rest, hrest⟩ := h
  have hacquire : (Effect.acquire lock).perform s v = (true, { v with locks }) := by
    simp only [Effect.perform, hl]
  have htaken := hrest.trans (Program.arrives_bind (Program.effect (.acquire lock))
    (fun taken => (if taken then do
      let result ← part.run
      Program.effect (.release lock)
      pure result
    else pure (.error (.syncInProgress lock))) >>= rest) v)
  rw [Program.run_effect, hacquire] at htaken
  exact ⟨fun r => (Program.effect (.release lock) >>= fun _ => pure r) >>= rest,
    (bind_assoc part.run _ rest) ▸ htaken⟩

end ComesTo
end Operation
end MailSync
