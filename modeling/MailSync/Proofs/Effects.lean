import MailSync.Proofs.Exchange

/-!
# Programs that only perform some effects

Which effects a program can ask for, whatever answers it gets. What every allowed effect keeps
between the world before it and the world after it, the whole program keeps.
-/
namespace MailSync
open Mailbox (Call Memory Medium)

variable {σ α β : Type}

namespace Program

/-- Every effect of the program is allowed, on every branch. -/
def Only (A : Effect → Prop) : Program α → Prop
  | done _ => True
  | step e next => A e ∧ ∀ answer, (next answer).Only A

variable {A : Effect → Prop}

theorem Only.bind {p : Program α} {f : α → Program β} (hp : p.Only A) (hf : ∀ a, (f a).Only A) :
    (p >>= f).Only A := by
  induction p with
  | done a => exact hf a
  | step e next ih => exact ⟨hp.1, fun answer => ih answer (hp.2 answer)⟩

theorem Only.mono {B : Effect → Prop} (h : ∀ e, A e → B e) {p : Program α} (hp : p.Only A) :
    p.Only B := by
  induction p with
  | done a => trivial
  | step e next ih => exact ⟨h e hp.1, fun answer => ih answer (hp.2 answer)⟩

/-- A relation that is kept by allowed effects is kept by the run. -/
theorem Only.run [Medium σ] {s : Surroundings σ} {R : World σ → World σ → Prop}
    (refl : ∀ w, R w w) (trans : ∀ w v u, R w v → R v u → R w u)
    (hR : ∀ e, A e → ∀ w, R w (e.perform s w).2) {p : Program α} (hp : p.Only A) (w : World σ) :
    R w (p.run s w).2 := by
  induction p generalizing w with
  | done a => exact refl w
  | step e next ih =>
    exact trans _ _ _ (hR e hp.1 w) (ih (e.perform s w).1 (hp.2 _) (e.perform s w).2)

end Program

namespace Operation

/-- Every effect of the operation is allowed. -/
def Only (A : Effect → Prop) (op : Operation α) : Prop := Program.Only A op.run

namespace Only
variable {A : Effect → Prop}

theorem pure (a : α) : Only A (pure a) := trivial

theorem throw (e : SyncError) : Only A (throw e : Operation α) := trivial

theorem bind {op : Operation α} {f : α → Operation β} (h : Only A op) (hf : ∀ a, Only A (f a)) :
    Only A (op >>= f) := by
  refine Program.Only.bind h fun r => ?_
  cases r with
  | ok a => exact hf a
  | error e => trivial

theorem ofProgram {p : Program α} (h : p.Only A) : Only A (ofProgram p) :=
  Program.Only.bind h fun _ => trivial

theorem ask {call : Call} (h : A (.ask call)) : Only A (ask call) := by
  refine ⟨h, fun answer => ?_⟩
  cases answer <;> trivial

theorem checkCancelled (h : A .checkCancelled) : Only A checkCancelled := by
  refine ⟨h, fun answer => ?_⟩
  cases answer <;> trivial

theorem discard {op : Operation α} (h : Only A op) : Only A (discard op) := by
  change Only A (Functor.mapConst () op)
  rw [LawfulFunctor.map_const, Function.comp_apply, map_eq_pure_bind]
  exact h.bind fun _ => pure ()

theorem forM {ι : Type} {l : List ι} {f : ι → Operation Unit} (h : ∀ i ∈ l, Only A (f i)) :
    Only A (l.forM f) := by
  induction l with
  | nil => trivial
  | cons i l ih =>
    rw [List.forM_eq_forM, List.forM_cons]
    exact (h i List.mem_cons_self).bind fun _ => ih fun j hj => h j (List.mem_cons_of_mem i hj)

theorem withLock {lock : String} {op : Operation α} (ha : A (.acquire lock))
    (hr : A (.release lock)) (h : Only A op) : Only A (withLock lock op) := by
  refine Program.Only.bind (p := Program.effect (.acquire lock)) ⟨ha, fun _ => trivial⟩ ?_
  intro taken
  cases taken with
  | false => trivial
  | true =>
    refine Program.Only.bind h fun r => ?_
    exact Program.Only.bind (p := Program.effect (.release lock)) ⟨hr, fun _ => trivial⟩
      fun _ => trivial

end Only
end Operation

/-- No request for a command is posted. -/
def Effect.Avoids (command : String) : Effect → Prop
  | .post _ request => request.command ≠ command
  | _ => True

theorem Exchange.only_post {A : Effect → Prop} {account : Account} {request : Request}
    (h : A (.post account request)) : (post account request).Only A :=
  ⟨h, fun _ => trivial⟩

theorem Session.only_snapshot {A : Effect → Prop} (h : ∀ key, A (.ask (.extra key)))
    (sess : Session) : Operation.Only A sess.snapshot :=
  (Operation.Only.ask (h _)).bind fun _ => .pure _

theorem Session.only_turn {A : Effect → Prop} {ε : Type} (hask : ∀ key, A (.ask (.extra key)))
    (hlook : A .checkCancelled) (sess : Session) {exchange : Account → Program ε}
    (h : ∀ account, (exchange account).Only A) : Operation.Only A (sess.turn exchange) := by
  refine (sess.only_snapshot hask).bind fun account => ?_
  refine (Operation.Only.ofProgram (h account)).bind fun _ => ?_
  exact (Operation.Only.checkCancelled hlook).bind fun _ => .pure _

/-- A later world, with no exchange about a command in between. -/
structure World.Quiet (command : String) (w v : World σ) : Prop where
  history : w.history <+: v.history
  since : ∀ x ∈ w.since v, x.1.command ≠ command

namespace World
variable {command : String} {w v u : World Memory}

theorem Quiet.of_exchanges (hh : w.history <+: v.history) (h : v.exchanges = w.exchanges) :
    w.Quiet command v := by
  refine ⟨hh, ?_⟩
  rw [World.since_eq (h.trans (List.append_nil _).symm)]
  exact fun _ h => nomatch h

theorem Quiet.refl (command : String) (w : World Memory) : w.Quiet command w :=
  .of_exchanges List.prefix_rfl rfl

theorem Quiet.trans (h : w.Quiet command v) (h' : v.Quiet command u) : w.Quiet command u := by
  refine ⟨h.history.trans h'.history, fun x hx => ?_⟩
  rw [since_append h.history h'.history] at hx
  rcases List.mem_append.mp hx with hx | hx
  · exact h.since x hx
  · exact h'.since x hx

end World

theorem Effect.quiet_perform {s : Surroundings Memory} (hs : s.Solitary) {command : String}
    {e : Effect} (h : e.Avoids command) (w : World Memory) :
    w.Quiet command (e.perform s w).2 := by
  have hh : w.history <+: (e.perform s w).2.history :=
    Program.history_prefix_run hs (Program.effect e) w
  cases e with
  | post account request =>
    obtain ⟨r, c, hr⟩ := Effect.perform_post hs account request w
    refine ⟨hh, ?_⟩
    rw [hr, World.since_eq (World.exchanges_exchanged ..)]
    intro x hx
    rw [List.mem_singleton.mp hx]
    exact h
  | ask call =>
    refine .of_exchanges hh ?_
    cases hw : call.isWrite with
    | false => rw [perform_ask_read hw]
    | true => rw [perform_ask_write hw, World.exchanges_written]
  | checkCancelled => exact .of_exchanges hh rfl
  | acquire lock =>
    refine .of_exchanges hh ?_
    simp only [perform]
    cases w.locks.acquire? lock <;> rfl
  | release lock => exact .of_exchanges hh rfl
  | tell notice =>
    refine .of_exchanges hh ?_
    simp only [perform, World.record, World.exchanges, List.foldl_append]
    rfl
  | freshId => exact .of_exchanges hh rfl

/-- What avoids a command makes no exchange about it. -/
theorem Operation.Only.quiet {s : Surroundings Memory} (hs : s.Solitary) {command : String}
    {op : Operation α} (h : Only (Effect.Avoids command) op) (w : World Memory) :
    w.Quiet command (op.runIn s w).2 :=
  Program.Only.run (World.Quiet.refl command) (fun _ _ _ => World.Quiet.trans)
    (fun _ he w => Effect.quiet_perform hs he w) h w

end MailSync
