import MailSync.Proofs.Effects

/-!
# Traces of programs

The trace of a run is the list of its effects, each with its answer. A property of all traces that a
program can have, whatever the answers are, holds of every run: with any server, any storage and
any user. Such properties are put together along the program, with one rule for each way to build
one.
-/
namespace MailSync
open Mailbox (Call Medium)

variable {σ α β : Type}

/-- An effect and its answer. -/
abbrev Asked := (e : Effect) × e.Answer

namespace Program

/-- The effects of a run, in order. -/
def trace [Medium σ] (s : Surroundings σ) : Program α → World σ → List Asked
  | done _, _ => []
  | step e next, w =>
    let (answer, w) := e.perform s w
    ⟨e, answer⟩ :: (next answer).trace s w

/-- Whatever the answers are, something holds of the trace and the value. -/
def Always : Program α → (List Asked → α → Prop) → Prop
  | done a, Q => Q [] a
  | step e next, Q => ∀ answer, (next answer).Always fun t a => Q (⟨e, answer⟩ :: t) a

/-- The traces that a program can have, each with the value that it ends with. -/
def Yields : Program α → List Asked → α → Prop
  | done a, t, b => t = [] ∧ b = a
  | step e next, t, b => ∃ answer rest, t = ⟨e, answer⟩ :: rest ∧ (next answer).Yields rest b

namespace Always
variable {p : Program α} {R Q : List Asked → α → Prop}

theorem mono (h : p.Always R) (hQ : ∀ t a, R t a → Q t a) : p.Always Q := by
  induction p generalizing R Q with
  | done a => exact hQ [] a h
  | step e next ih =>
    intro answer
    exact ih answer (h answer) fun t a => hQ (⟨e, answer⟩ :: t) a

theorem bind {f : α → Program β} {Q : List Asked → β → Prop}
    (h : p.Always fun t a => (f a).Always fun t' b => Q (t ++ t') b) : (p >>= f).Always Q := by
  induction p generalizing Q with
  | done a => exact h
  | step e next ih =>
    intro answer
    exact ih answer (h answer)

theorem and (h : p.Always R) (h' : p.Always Q) : p.Always fun t a => R t a ∧ Q t a := by
  induction p generalizing R Q with
  | done a => exact ⟨h, h'⟩
  | step e next ih => exact fun answer => ih answer (h answer) (h' answer)

theorem yields (p : Program α) : p.Always p.Yields := by
  induction p with
  | done a => exact ⟨rfl, rfl⟩
  | step e next ih => exact fun answer => (ih answer).mono fun t a h => ⟨answer, t, rfl, h⟩

theorem of_only {A : Effect → Prop} (h : p.Only A) :
    p.Always fun t _ => ∀ x ∈ t, A x.1 := by
  induction p with
  | done a => exact List.forall_mem_nil _
  | step e next ih =>
    intro answer
    refine (ih answer (h.2 answer)).mono fun t a ht x hx => ?_
    rcases List.mem_cons.mp hx with rfl | hx
    · exact h.1
    · exact ht x hx

theorem run [Medium σ] (h : p.Always Q) (s : Surroundings σ) (w : World σ) :
    Q (p.trace s w) (p.run s w).1 := by
  induction p generalizing Q w with
  | done a => exact h
  | step e next ih => exact ih _ (h (e.perform s w).1) (e.perform s w).2

end Always
end Program

namespace Operation

def trace [Medium σ] (op : Operation α) (s : Surroundings σ) (w : World σ) : List Asked :=
  op.run.trace s w

/-- Whatever the answers are, one thing holds of the trace and the value, or another of the trace
where the operation fails. -/
def Always (op : Operation α) (Q : List Asked → α → Prop) (E : List Asked → Prop) : Prop :=
  op.run.Always fun t r =>
    match r with
    | .ok a => Q t a
    | .error _ => E t

namespace Always
variable {op : Operation α} {R Q : List Asked → α → Prop} {F E : List Asked → Prop}

theorem mono (h : op.Always R F) (hQ : ∀ t a, R t a → Q t a) (hE : ∀ t, F t → E t) :
    op.Always Q E := by
  refine Program.Always.mono h fun t r hr => ?_
  cases r with
  | ok a => exact hQ t a hr
  | error e => exact hE t hr

theorem bind {f : α → Operation β} {Q : List Asked → β → Prop} (h : op.Always R E)
    (hf : ∀ t a, R t a → (f a).Always (fun t' b => Q (t ++ t') b) fun t' => E (t ++ t')) :
    (op >>= f).Always Q E := by
  refine Program.Always.bind (Program.Always.mono h fun t r hr => ?_)
  cases r with
  | ok a => exact hf t a hr
  | error e =>
    change E (t ++ [])
    rw [List.append_nil]
    exact hr

theorem of_only {A : Effect → Prop} (h : Only A op) :
    op.Always (fun t _ => ∀ x ∈ t, A x.1) fun t => ∀ x ∈ t, A x.1 := by
  refine (Program.Always.of_only h).mono fun t r hr => ?_
  cases r <;> exact hr

theorem ask (call : Call) :
    (ask call).Always (fun t _ => ∃ answer, t = [⟨.ask call, answer⟩])
      fun t => ∃ answer, t = [⟨.ask call, answer⟩] := by
  intro answer
  cases answer <;> exact ⟨_, rfl⟩

theorem checkCancelled :
    checkCancelled.Always (fun t _ => ∃ cancelled, t = [⟨.checkCancelled, cancelled⟩])
      fun t => ∃ cancelled, t = [⟨.checkCancelled, cancelled⟩] := by
  intro cancelled
  cases cancelled <;> exact ⟨_, rfl⟩

theorem withLock {lock : String} (hheld : E [⟨.acquire lock, false⟩])
    (h : op.Always (fun t a => Q (⟨.acquire lock, true⟩ :: t ++ [⟨.release lock, ()⟩]) a)
      fun t => E (⟨.acquire lock, true⟩ :: t ++ [⟨.release lock, ()⟩])) :
    (withLock lock op).Always Q E := by
  intro taken
  cases taken with
  | false => exact hheld
  | true =>
    change Program.Always (op.run >>= fun r => Program.effect (.release lock) >>= fun _ => pure r) _
    refine Program.Always.bind (Program.Always.mono h fun t r hr answer => ?_)
    cases r <;> exact hr

theorem ofProgram {p : Program α} (h : p.Always Q) : (ofProgram p).Always Q E := by
  refine Program.Always.bind (h.mono fun t a ha => ?_)
  change Q (t ++ []) a
  rw [List.append_nil]
  exact ha

theorem ok [Medium σ] (h : op.Always Q E) {s : Surroundings σ} {w v : World σ} {a : α}
    (hr : op.runIn s w = (.ok a, v)) : Q (op.trace s w) a := by
  have hrun := Program.Always.run h s w
  rw [show op.run.run s w = _ from hr] at hrun
  exact hrun

theorem error [Medium σ] (h : op.Always Q E) {s : Surroundings σ} {w v : World σ} {e : SyncError}
    (hr : op.runIn s w = (.error e, v)) : E (op.trace s w) := by
  have hrun := Program.Always.run h s w
  rw [show op.run.run s w = _ from hr] at hrun
  exact hrun

end Always
end Operation

/-- The exchanges about a command, in order. -/
def exchangesOf (command : String) (t : List Asked) : List Exchanged :=
  t.filterMap fun x =>
    match x with
    | ⟨.post _ request, reply⟩ =>
      if request.command = command then some (request, reply) else none
    | _ => none

theorem exchangesOf_append (command : String) (t t' : List Asked) :
    exchangesOf command (t ++ t') = exchangesOf command t ++ exchangesOf command t' :=
  List.filterMap_append

theorem exchangesOf_post (command : String) (account : Account) (request : Request)
    (reply : Except TransportError Reply) :
    exchangesOf command [⟨.post account request, reply⟩] =
      if request.command = command then [(request, reply)] else [] := by
  simp only [exchangesOf, List.filterMap_cons, List.filterMap_nil]
  split_ifs <;> rfl

theorem exchangesOf_of_avoids {command : String} {t : List Asked}
    (h : ∀ x ∈ t, x.1.Avoids command) : exchangesOf command t = [] := by
  rw [exchangesOf, List.filterMap_eq_nil_iff]
  rintro ⟨e, answer⟩ hx
  have havoids : e.Avoids command := h _ hx
  cases e with
  | post account request => exact if_neg havoids
  | _ => rfl

/-- The replies to requests of a command, in order. -/
def repliesTo (command : String) (t : List Asked) : List (Except TransportError Reply) :=
  t.filterMap fun x =>
    match x with
    | ⟨.post _ request, reply⟩ => if request.command = command then some reply else none
    | _ => none

theorem repliesTo_eq_map (command : String) (t : List Asked) :
    repliesTo command t = (exchangesOf command t).map (·.2) := by
  rw [exchangesOf, List.map_filterMap, repliesTo]
  refine congrArg (List.filterMap · t) (funext fun ⟨e, answer⟩ => ?_)
  cases e with
  | post account request =>
    simp only
    split_ifs <;> rfl
  | _ => rfl

theorem repliesTo_append (command : String) (t t' : List Asked) :
    repliesTo command (t ++ t') = repliesTo command t ++ repliesTo command t' :=
  List.filterMap_append

theorem repliesTo_post (command : String) (account : Account) (request : Request)
    (reply : Except TransportError Reply) :
    repliesTo command [⟨.post account request, reply⟩] =
      if request.command = command then [reply] else [] := by
  rw [repliesTo_eq_map, exchangesOf_post]
  split_ifs <;> rfl

theorem repliesTo_of_avoids {command : String} {t : List Asked}
    (h : ∀ x ∈ t, x.1.Avoids command) : repliesTo command t = [] := by
  rw [repliesTo_eq_map, exchangesOf_of_avoids h]
  rfl

open Operation (Always)

/-- The trace of one exchange of a pass. -/
def Session.turned (key : (Effect.ask (.extra Mailbox.policyKeyMark)).Answer) (account : Account)
    (request : Request) (reply : Except TransportError Reply) (cancelled : Bool) : List Asked :=
  [⟨.ask (.extra Mailbox.policyKeyMark), key⟩, ⟨.post account request, reply⟩,
    ⟨.checkCancelled, cancelled⟩]

theorem Session.exchangesOf_turned (command : String)
    (key : (Effect.ask (.extra Mailbox.policyKeyMark)).Answer) (account : Account)
    (request : Request) (reply : Except TransportError Reply) (cancelled : Bool) :
    exchangesOf command (turned key account request reply cancelled) =
      if request.command = command then [(request, reply)] else [] := by
  change exchangesOf command ([⟨.ask (.extra Mailbox.policyKeyMark), key⟩] ++
    [⟨.post account request, reply⟩] ++ [⟨.checkCancelled, cancelled⟩]) = _
  rw [exchangesOf_append, exchangesOf_append, exchangesOf_post]
  exact List.append_nil _

theorem Session.repliesTo_turned (command : String)
    (key : (Effect.ask (.extra Mailbox.policyKeyMark)).Answer) (account : Account)
    (request : Request) (reply : Except TransportError Reply) (cancelled : Bool) :
    repliesTo command (turned key account request reply cancelled) =
      if request.command = command then [reply] else [] := by
  rw [repliesTo_eq_map, exchangesOf_turned]
  split_ifs <;> rfl

/-- A turn is one exchange, unless the storage fails before it. -/
theorem Session.always_turn {ε : Type} (sess : Session) {exchange : Account → Program ε}
    {request : Request} {g : Except TransportError Reply → ε}
    (h : ∀ account, exchange account =
      Program.effect (.post account request) >>= fun r => pure (g r)) :
    (sess.turn exchange).Always
      (fun t o => ∃ key account reply c, t = turned key account request reply c ∧ o = g reply)
      fun t => (∃ key, t = [⟨.ask (.extra Mailbox.policyKeyMark), key⟩]) ∨
        ∃ key account reply c, t = turned key account request reply c := by
  have hsnapshot : sess.snapshot.Always
      (fun t _ => ∃ key, t = [⟨.ask (.extra Mailbox.policyKeyMark), key⟩])
      fun t => (∃ key, t = [⟨.ask (.extra Mailbox.policyKeyMark), key⟩]) ∨
        ∃ key account reply c, t = turned key account request reply c := by
    refine Always.bind ((Always.ask _).mono (fun _ _ ht => ht) fun _ ht => .inl ht) fun t _ ht => ?_
    obtain ⟨key, rfl⟩ := ht
    exact ⟨key, rfl⟩
  refine hsnapshot.bind fun t account ht => ?_
  obtain ⟨key, rfl⟩ := ht
  refine Always.bind (R := fun t o => ∃ reply, t = [⟨.post account request, reply⟩] ∧ o = g reply)
    (.ofProgram ?_) fun t o ht => ?_
  · rw [h account]
    exact fun reply => ⟨reply, rfl, rfl⟩
  obtain ⟨reply, rfl, rfl⟩ := ht
  refine Always.bind (R := fun t _ => ∃ c, t = [⟨.checkCancelled, c⟩])
    (Always.checkCancelled.mono (fun _ _ ht => ht) fun t ht => ?_) fun t _ ht => ?_
  · obtain ⟨c, rfl⟩ := ht
    exact .inr ⟨key, account, reply, c, rfl⟩
  · obtain ⟨c, rfl⟩ := ht
    exact ⟨key, account, reply, c, rfl, rfl⟩

end MailSync
