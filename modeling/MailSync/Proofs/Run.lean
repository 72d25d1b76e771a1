import MailSync.Scripted

/-!
# Running operations

One equation for each way to build an operation, and what a request does to the world when
nobody else is at the mailbox meanwhile. Surroundings of that kind answer as they like and let
the user cancel at any moment; they never write, and the history only grows.
-/
namespace MailSync
open Mailbox (Call Medium)

variable {σ α β : Type}

namespace Operation
variable [Medium σ]

@[simp] theorem runIn_pure (a : α) (s : Surroundings σ) (w : World σ) :
    (pure a : Operation α).runIn s w = (.ok a, w) := rfl

theorem runIn_bind (op : Operation α) (f : α → Operation β) (s : Surroundings σ) (w : World σ) :
    (op >>= f).runIn s w =
      match op.runIn s w with
      | (.ok a, w) => (f a).runIn s w
      | (.error e, w) => (.error e, w) := by
  change Program.run s (op.run >>= _) w = _
  rw [Program.run_bind]
  simp only [runIn]
  rcases Program.run s op.run w with ⟨_ | a, w⟩ <;> rfl

/-- A first part that ends well hands its value and its world on. -/
theorem runIn_bind_ok {op : Operation α} {s : Surroundings σ} {w w' : World σ} {a : α}
    (h : op.runIn s w = (.ok a, w')) (f : α → Operation β) :
    (op >>= f).runIn s w = (f a).runIn s w' := by
  rw [runIn_bind, h]

theorem runIn_map (f : α → β) (op : Operation α) (s : Surroundings σ) (w : World σ) :
    (f <$> op).runIn s w = ((op.runIn s w).1.map f, (op.runIn s w).2) := by
  rw [map_eq_pure_bind, runIn_bind]
  rcases op.runIn s w with ⟨_ | a, w⟩ <;> rfl

@[simp] theorem runIn_discard (op : Operation α) (s : Surroundings σ) (w : World σ) :
    (discard op).runIn s w = ((op.runIn s w).1.map fun _ => (), (op.runIn s w).2) :=
  runIn_map _ op s w

/-- What fails is recovered from. -/
theorem runIn_tryCatch (op : Operation α) (f : SyncError → Operation α) (s : Surroundings σ)
    (w : World σ) :
    (tryCatch op f).runIn s w =
      match op.runIn s w with
      | (.ok a, w) => (.ok a, w)
      | (.error e, w) => (f e).runIn s w := by
  change Program.run s (op.run >>= _) w = _
  rw [Program.run_bind]
  simp only [runIn]
  rcases Program.run s op.run w with ⟨_ | a, w⟩ <;> rfl

theorem runIn_ofProgram (p : Program α) (s : Surroundings σ) (w : World σ) :
    (ofProgram p).runIn s w = (.ok (p.run s w).1, (p.run s w).2) := by
  change Program.run s (p >>= _) w = _
  rw [Program.run_bind]
  rfl

theorem runIn_ask (call : Call) (s : Surroundings σ) (w : World σ) :
    (ask call).runIn s w =
      (((Effect.ask call).perform s w).1.mapError .storage, ((Effect.ask call).perform s w).2) := by
  change Program.run s (Program.effect _ >>= _) w = _
  rw [Program.run_bind, Program.run_effect]
  rcases (Effect.ask call).perform s w with ⟨_ | a, w⟩ <;> rfl

theorem runIn_tell (notice : Notice) (s : Surroundings σ) (w : World σ) :
    (tell notice).runIn s w = (.ok (), w.record (.told notice)) :=
  runIn_ofProgram ..

theorem runIn_checkCancelled (s : Surroundings σ) (w : World σ) :
    checkCancelled.runIn s w =
      (if w.cancelled || s.cancels w then .error .cancelled else .ok (),
        { w with cancelled := w.cancelled || s.cancels w }) := by
  change Program.run s (Program.effect _ >>= _) w = _
  rw [Program.run_bind, Program.run_effect]
  simp only [Effect.perform]
  split <;> simp only [*] <;> rfl

theorem runIn_withLock_held {lock : String} {w : World σ} (h : w.locks.acquire? lock = none)
    (op : Operation α) (s : Surroundings σ) :
    (withLock lock op).runIn s w = (.error (.syncInProgress lock), w) := by
  have ha : (Effect.acquire lock).perform s w = (false, w) := by simp only [Effect.perform, h]
  change Program.run s (Program.effect _ >>= _) w = _
  rw [Program.run_bind, Program.run_effect, ha]
  rfl

theorem runIn_withLock_free {lock : String} {w : World σ} {locks : Locks}
    (h : w.locks.acquire? lock = some locks) (op : Operation α) (s : Surroundings σ) :
    (withLock lock op).runIn s w =
      ((op.runIn s { w with locks }).1,
        { (op.runIn s { w with locks }).2 with
          locks := (op.runIn s { w with locks }).2.locks.release lock }) := by
  have ha : (Effect.acquire lock).perform s w = (true, { w with locks }) := by
    simp only [Effect.perform, h]
  change Program.run s (Program.effect _ >>= _) w = _
  rw [Program.run_bind, Program.run_effect, ha]
  simp only [if_true, Program.run_bind]
  rfl

end Operation

namespace Surroundings

/-- While a request is in flight nobody is at the mailbox or takes a lock. The user may cancel. -/
def Solitary (s : Surroundings σ) : Prop :=
  ∀ w, ∃ cancelled, s.inFlight w = { w with cancelled }

end Surroundings

/-- A script in which nothing happens meanwhile, or only the user cancels. -/
theorem Script.solitary_surroundings {s : Script σ}
    (h : ∀ entry ∈ s.meanwhile, ∀ w, ∃ cancelled, entry.2 w = { w with cancelled }) :
    s.surroundings.Solitary := by
  intro w
  simp only [Script.surroundings]
  have hl : ∀ entry ∈ s.meanwhile.filter (·.1 = w.requests.length), entry ∈ s.meanwhile :=
    fun _ he => (List.mem_filter.mp he).1
  generalize s.meanwhile.filter (·.1 = w.requests.length) = l at hl
  induction l generalizing w with
  | nil => exact ⟨w.cancelled, rfl⟩
  | cons entry l ih =>
    obtain ⟨c, hc⟩ := h entry (hl entry List.mem_cons_self) w
    obtain ⟨c', hc'⟩ := ih { w with cancelled := c } fun e he => hl e (List.mem_cons_of_mem _ he)
    exact ⟨c', by rw [List.foldl_cons, hc, hc']⟩

/-- Surroundings in which no request gets through. -/
def Surroundings.silent : Surroundings σ := (Script.mk [] [] "").surroundings

namespace World

/-- The world once a request was answered. -/
def exchanged (w : World σ) (account : Account) (request : Request)
    (result : Except TransportError Reply) (cancelled : Bool) : World σ :=
  { w with
    cancelled
    history := w.history ++
      [⟨.sent account request, w.mailbox⟩, ⟨.received result, w.mailbox⟩] }

end World

theorem Effect.perform_post [Medium σ] {s : Surroundings σ} (hs : s.Solitary) (account : Account)
    (request : Request) (w : World σ) :
    ∃ result cancelled, (Effect.post account request).perform s w =
      (result, w.exchanged account request result cancelled) := by
  obtain ⟨c, hc⟩ := hs (w.record (.sent account request))
  refine ⟨_, c, Prod.ext rfl ?_⟩
  simp only [Effect.perform, hc]
  simp [World.record, World.exchanged]

namespace Program

/-- The history only grows. -/
theorem history_prefix_run [Medium σ] {s : Surroundings σ} (hs : s.Solitary) (p : Program α)
    (w : World σ) : w.history <+: (p.run s w).2.history := by
  induction p generalizing w with
  | done a => exact List.prefix_rfl
  | step e next ih =>
    refine List.IsPrefix.trans ?_ (ih (e.perform s w).1 (e.perform s w).2)
    cases e with
    | post account request =>
      obtain ⟨r, c, hr⟩ := Effect.perform_post hs account request w
      rw [hr]
      exact List.prefix_append ..
    | ask call =>
      simp only [Effect.perform]
      split
      · exact List.prefix_append ..
      · exact List.prefix_rfl
    | checkCancelled => exact List.prefix_rfl
    | acquire lock =>
      simp only [Effect.perform]
      cases w.locks.acquire? lock <;> exact List.prefix_rfl
    | release lock => exact List.prefix_rfl
    | tell notice => exact List.prefix_append ..
    | freshId => exact List.prefix_rfl

end Program

theorem Operation.history_prefix_runIn [Medium σ] {s : Surroundings σ} (hs : s.Solitary)
    (op : Operation α) (w : World σ) : w.history <+: (op.runIn s w).2.history :=
  Program.history_prefix_run hs op.run w

end MailSync
