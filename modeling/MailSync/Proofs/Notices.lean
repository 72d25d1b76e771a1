import MailSync.Proofs.Effects

/-!
# What a run adds to the history

A property of moments that holds of all that happens between two worlds, and so of all that a
listener is told in between. What tells nothing adds only moments at which nothing is told.
-/
namespace MailSync
open Mailbox (Call Memory)

variable {σ α : Type}

/-- At this moment nothing is told. -/
def Moment.Silent (moment : Moment σ) : Prop := ∀ notice, moment.event ≠ .told notice

/-- A later world, with a property of every moment since. -/
def World.Adds (P : Moment σ → Prop) (w v : World σ) : Prop :=
  ∃ rest, v.history = w.history ++ rest ∧ ∀ moment ∈ rest, P moment

namespace World.Adds
variable {P R : Moment σ → Prop} {w v u : World σ}

theorem history (h : w.Adds P v) : w.history <+: v.history := by
  obtain ⟨rest, hv, -⟩ := h
  exact ⟨rest, hv.symm⟩

theorem of_eq (h : v.history = w.history) : w.Adds P v :=
  ⟨[], h.trans (List.append_nil _).symm, fun _ h => nomatch h⟩

theorem refl (P : Moment σ → Prop) (w : World σ) : w.Adds P w := .of_eq rfl

theorem trans (h : w.Adds P v) (h' : v.Adds P u) : w.Adds P u := by
  obtain ⟨rest, hv, hP⟩ := h
  obtain ⟨rest', hu, hP'⟩ := h'
  refine ⟨rest ++ rest', by rw [hu, hv, List.append_assoc], fun moment hm => ?_⟩
  rcases List.mem_append.mp hm with hm | hm
  · exact hP moment hm
  · exact hP' moment hm

theorem mono (h : w.Adds P v) (hR : ∀ moment, P moment → R moment) : w.Adds R v := by
  obtain ⟨rest, hv, hP⟩ := h
  exact ⟨rest, hv, fun moment hm => hR moment (hP moment hm)⟩

theorem record {event : Event} (h : P ⟨event, w.mailbox⟩) : w.Adds P (w.record event) :=
  ⟨[_], rfl, fun _ hm => List.mem_singleton.mp hm ▸ h⟩

/-- What is written is in the history call by call. -/
theorem written {P : Moment Memory → Prop} (h : ∀ call m, P ⟨.wrote call, m⟩) (w : World Memory)
    (calls : List Call) : w.Adds P (w.written calls) := by
  have htrail (m : Memory) : ∀ moment ∈ m.trail calls, P moment := by
    induction calls generalizing m with
    | nil => exact fun _ h => nomatch h
    | cons call calls ih =>
      exact List.forall_mem_cons.mpr ⟨h call (m.next call), ih (m.next call)⟩
  exact ⟨_, rfl, htrail w.mailbox⟩

theorem exchanged {account : Account} {request : Request} {result : Except TransportError Reply}
    (hsent : P ⟨.sent account request, w.mailbox⟩) (hreceived : P ⟨.received result, w.mailbox⟩)
    (cancelled : Bool) : w.Adds P (w.exchanged account request result cancelled) :=
  ⟨_, rfl, List.forall_mem_cons.mpr ⟨hsent, List.forall_mem_singleton.mpr hreceived⟩⟩

end World.Adds

/-- The events that an effect can leave in the history. -/
inductive Effect.Leaves : Effect → Event → Prop
  | sent (account : Account) (request : Request) :
      Leaves (.post account request) (.sent account request)
  | received (account : Account) (request : Request) (result : Except TransportError Reply) :
      Leaves (.post account request) (.received result)
  | wrote (call : Call) : Leaves (.ask call) (.wrote call)
  | told (notice : Notice) : Leaves (.tell notice) (.told notice)

theorem Effect.adds_perform {s : Surroundings Memory} (hs : s.Solitary) {P : Moment Memory → Prop}
    {e : Effect} (h : ∀ event, e.Leaves event → ∀ m, P ⟨event, m⟩) (w : World Memory) :
    w.Adds P (e.perform s w).2 := by
  cases e with
  | post account request =>
    obtain ⟨r, c, hr⟩ := Effect.perform_post hs account request w
    rw [hr]
    exact .exchanged (h _ (.sent account request) _) (h _ (.received account request r) _) c
  | ask call =>
    cases hw : call.isWrite with
    | false =>
      rw [perform_ask_read hw]
      exact .refl P w
    | true =>
      rw [perform_ask_write hw]
      exact ⟨_, rfl, List.forall_mem_singleton.mpr (h _ (.wrote call) _)⟩
  | checkCancelled => exact .of_eq rfl
  | acquire lock =>
    refine .of_eq ?_
    simp only [perform]
    cases w.locks.acquire? lock <;> rfl
  | release lock => exact .of_eq rfl
  | tell notice => exact .record (h _ (.told notice) _)
  | freshId => exact .of_eq rfl

/-- If all that the allowed effects can leave has a property, so has every moment that is added. -/
theorem Operation.Only.adds {s : Surroundings Memory} (hs : s.Solitary) {A : Effect → Prop}
    {P : Moment Memory → Prop} (hP : ∀ e, A e → ∀ event, e.Leaves event → ∀ m, P ⟨event, m⟩)
    {op : Operation α} (h : Only A op) (w : World Memory) : w.Adds P (op.runIn s w).2 :=
  Program.Only.run (World.Adds.refl P) (fun _ _ _ => World.Adds.trans)
    (fun e he w => Effect.adds_perform hs (hP e he) w) h w

/-- At a moment of writing nothing is told. -/
theorem Moment.silent_wrote (call : Call) (m : σ) : Silent ⟨.wrote call, m⟩ :=
  fun _ h => nomatch h

/-- What tells nothing adds no moment at which something is told. -/
theorem Operation.Only.adds_silent {s : Surroundings Memory} (hs : s.Solitary) {op : Operation α}
    (h : Only (fun e => ∀ notice, e ≠ .tell notice) op) (w : World Memory) :
    w.Adds Moment.Silent (op.runIn s w).2 := by
  refine Only.adds hs (fun e he event hleaves m notice hnotice => ?_) h w
  cases hleaves with
  | told => exact he _ rfl
  | sent | received | wrote => cases hnotice

end MailSync
