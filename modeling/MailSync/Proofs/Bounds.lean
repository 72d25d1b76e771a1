import MailSync.Proofs.Costs

/-!
# Bounds on passes

With any server a pass ends within bounds: on its requests, on its handshakes, on the passes over
the hierarchy that it runs, and on the times that it begins again because its key was refused. A
reply that refuses the key counts if the pass goes on after it. A sync is two passes at most, the
second one for what was cut short.
-/
namespace MailSync
open Mailbox (Medium)
open Operation (Always Only)

variable {σ : Type}

namespace Collection
variable (sess : Session) (folder : String)

/-- Whether a reply refuses the key that was sent. -/
def refusesKey (reply : Except TransportError Reply) : Bool :=
  match outcome folder none reply with
  | .error f => f.verdict = .keyInvalid
  | .ok _ => false

theorem refusesKey_iff (key : Option String) (reply : Except TransportError Reply) :
    refusesKey folder reply ↔
      ∃ f, outcome folder key reply = .error f ∧ f.verdict = .keyInvalid := by
  rw [outcome_verdict_iff folder key none (v := .keyInvalid) nofun nofun, refusesKey]
  cases outcome folder none reply <;> simp

/-- How many replies refuse the key. -/
def refusals (t : List Asked) : Nat := (repliesTo "Sync" t).countP (refusesKey folder)

/-- How many replies refuse the key without being the last ones. -/
def survived (t : List Asked) : Nat := (repliesTo "Sync" t).dropLast.countP (refusesKey folder)

theorem survived_le_refusals (t : List Asked) : survived folder t ≤ refusals folder t :=
  (List.dropLast_sublist _).countP_le

theorem refusals_append (t t' : List Asked) :
    refusals folder (t ++ t') = refusals folder t + refusals folder t' := by
  rw [refusals, repliesTo_append, List.countP_append]
  rfl

theorem survived_append_le (t t' : List Asked) :
    survived folder (t ++ t') ≤ refusals folder t + survived folder t' := by
  rw [survived, repliesTo_append]
  cases h : repliesTo "Sync" t' with
  | nil =>
    rw [List.append_nil]
    exact Nat.le_add_right_of_le (survived_le_refusals folder t)
  | cons reply rest =>
    rw [List.dropLast_append_of_ne_nil (List.cons_ne_nil _ _), List.countP_append, survived, h]
    exact Nat.le_refl _

/-- Whatever the answers are, so many refusals are survived at most; where the operation ends well
there are no others. -/
def Survives {α : Type} (op : Operation α) (n : Nat) : Prop :=
  op.Always (fun t _ => refusals folder t ≤ n) fun t => survived folder t ≤ n

namespace Survives
variable {folder} {α β : Type} {op : Operation α} {f : α → Operation β} {n m k : Nat}

/-- What asks for no messages has no key refused. -/
theorem of_only (h : Only (Effect.Avoids "Sync") op) : Survives folder op n := by
  have hnone {t : List Asked} (ht : ∀ x ∈ t, x.1.Avoids "Sync") : refusals folder t = 0 := by
    rw [refusals, repliesTo_of_avoids ht]
    rfl
  refine (Always.of_only h).mono (fun t _ ht => ?_) fun t ht => ?_
  · rw [hnone ht]
    exact Nat.zero_le n
  · have hle := survived_le_refusals folder t
    rw [hnone ht] at hle
    omega

theorem bind (h : Survives folder op n) (hf : ∀ a, Survives folder (f a) m) (hk : n + m ≤ k) :
    Survives folder (op >>= f) k := by
  refine Always.bind (Always.mono h (fun _ _ ht => ht) fun t ht => by omega) fun t a ht => ?_
  refine Always.mono (hf a) (fun t' b ht' => ?_) fun t' ht' => ?_
  · rw [refusals_append]
    omega
  · have hle := survived_append_le folder t t'
    omega

theorem bind_quiet (h : Only (Effect.Avoids "Sync") op) (hf : ∀ a, Survives folder (f a) n) :
    Survives folder (op >>= f) n :=
  bind (n := 0) (of_only h) hf (by omega)

/-- A round whose reply refuses the key counts, unless it is the last one. -/
theorem turn_bind {sess : Session} {exchange : Account → Program α} (request : MailSync.Request)
    {g : Except TransportError Reply → α} (hrequest : request.command = "Sync")
    (h : ∀ account, exchange account =
      Program.effect (.post account request) >>= fun r => pure (g r))
    (hf : ∀ reply, (∃ e, f (g reply) = throw e) ∨
      ∃ m, (refusesKey folder reply).toNat + m ≤ n ∧ Survives folder (f (g reply)) m) :
    Survives folder (sess.turn exchange >>= f) n := by
  have hreplies (key account reply c) :
      repliesTo "Sync" (Session.turned key account request reply c) = [reply] := by
    rw [Session.repliesTo_turned, if_pos hrequest]
  have hlast (key account reply c) :
      survived folder (Session.turned key account request reply c) = 0 := by
    rw [survived, hreplies]
    rfl
  refine Always.bind ((sess.always_turn h).mono (fun _ _ ht => ht) fun t ht => ?_) fun t o ht => ?_
  · rcases ht with ⟨key, rfl⟩ | ⟨key, account, reply, c, rfl⟩
    · exact Nat.zero_le n
    · rw [hlast]
      exact Nat.zero_le n
  obtain ⟨key, account, reply, c, rfl, rfl⟩ := ht
  rcases hf reply with ⟨e, he⟩ | ⟨m, hm, hsurvives⟩
  · rw [he]
    change survived folder (Session.turned key account request reply c ++ []) ≤ n
    rw [List.append_nil, hlast]
    exact Nat.zero_le n
  · have hone : refusals folder (Session.turned key account request reply c) =
        (refusesKey folder reply).toNat := by
      rw [refusals, hreplies, List.countP_singleton]
      cases refusesKey folder reply <;> rfl
    refine Always.mono hsurvives (fun t' b ht' => ?_) fun t' ht' => ?_
    · rw [refusals_append, hone]
      omega
    · have hle := survived_append_le folder
        (Session.turned key account request reply c) t'
      rw [hone] at hle
      omega

end Survives

/-- The refusals of its key that a pass may still survive. -/
def Progress.restarts (p : Progress) : Nat := if p.restarted then 0 else 1

theorem survives_collect (errand : Errand) (window : Window) (left : Nat) (p : Progress) :
    Survives folder (collect sess folder errand window left p) p.restarts := by
  have hlook : Only (Effect.Avoids "Sync") Operation.checkCancelled := .checkCancelled trivial
  have hprovision := sess.avoids_provision (show "Sync" ≠ "Provision" by decide)
  induction left generalizing p with
  | zero => exact .bind_quiet hlook fun _ => .of_only (.throw _)
  | succ left ih =>
    rw [collect_succ]
    refine .bind_quiet hlook fun _ => ?_
    refine .turn_bind (wire sess.settings (p.request errand folder window) p.key)
      (g := outcome folder p.key) rfl (fun account => rfl) fun reply => ?_
    have hleads := p.leads_next errand folder sess.mayProvision (outcome folder p.key reply)
    have hrefuses := refusesKey_iff folder p.key reply
    generalize outcome folder p.key reply = o at hleads hrefuses
    -- A reply that does not refuse the key leaves what may be survived as it is.
    have hspares (h : ∀ f, o = .error f → f.verdict ≠ .keyInvalid) {n : Nat} :
        (refusesKey folder reply).toNat + n ≤ n := by
      have hno : refusesKey folder reply = false := by
        rw [← Bool.not_eq_true, hrefuses]
        rintro ⟨f, ho, hv⟩
        exact h f ho hv
      rw [hno]
      exact Nat.le_of_eq (Nat.zero_add n)
    generalize p.next errand folder sess.mayProvision o = next at hleads ⊢
    cases hleads with
    | more _ takes =>
      refine .inr ⟨p.restarts, hspares (fun _ h => nomatch h), ?_⟩
      rw [Progress.restarts, ← takes.restarted]
      exact ih _
    | done => exact .inr ⟨_, hspares (fun _ h => nomatch h), .of_only (.pure _)⟩
    | restart _ first =>
      refine .inr ⟨0, ?_, ih _⟩
      rw [Progress.restarts, first]
      exact Bool.toNat_le _
    | refresh verdict _ =>
      refine .inr ⟨p.restarts, hspares fun f hf hv => ?_, ?_⟩
      · cases hf
        exact absurd (verdict.symm.trans hv) (by decide)
      · refine .bind_quiet (Hierarchy.avoids_pass sess).discard fun _ => ?_
        refine .bind_quiet (only_requireFolder fun _ _ => trivial) fun _ => ?_
        exact .bind_quiet (.ask trivial) fun stored => ih _
    | provision verdict _ _ =>
      refine .inr ⟨p.restarts, hspares fun f hf hv => ?_, .bind_quiet hprovision fun _ => ih _⟩
      cases hf
      exact absurd (verdict.symm.trans hv) (by decide)
    | stalled | fail => exact .inl ⟨_, rfl⟩

theorem survives_pass (errand : Errand) : Survives folder (pass sess folder errand) 1 := by
  have hfolder : Only (Effect.Avoids "Sync") (requireFolder folder) :=
    only_requireFolder fun _ _ => trivial
  refine .bind_quiet hfolder fun _ => .bind_quiet (hfolder.bind fun _ => ?_) fun window => ?_
  · exact Only.bind (Only.bind (.ask trivial) fun _ => .pure _) fun _ => .pure _
  refine .bind_quiet (.ask trivial) fun stored => ?_
  refine (survives_collect sess folder errand _ _ _).bind (m := 0) (fun _ => .of_only ?_) ?_
  · exact (Only.checkCancelled trivial).bind fun _ => .pure _
  · simp [Progress.restarts, Progress.start]

theorem survives_complete (ids : List String) :
    Survives folder (complete sess folder ids) 1 := by
  have hfetch : Survives folder (fetch sess folder ids) 1 := by
    rw [fetch_eq]
    exact (survives_pass sess folder _).bind (m := 0)
      (fun c => .of_only (only_keep (fun _ _ => trivial) ids c)) (Nat.le_refl 1)
  refine hfetch.bind (m := 0) (fun r => .of_only ?_) (Nat.le_refl 1)
  exact (only_announce (fun _ => trivial) folder r.downloaded).bind fun _ => .pure r

/-- Whatever the answers are and however the operation ends, so many refusals are survived at
most. -/
def Endures {α : Type} (op : Operation α) (n : Nat) : Prop :=
  op.run.Always fun t _ => survived folder t ≤ n

namespace Endures
variable {folder} {α β : Type} {op : Operation α} {f : α → Operation β} {n m k : Nat}

theorem of_survives (h : Survives folder op n) : Endures folder op n := by
  refine Program.Always.mono h fun t r hr => ?_
  cases r with
  | ok a => exact Nat.le_trans (survived_le_refusals folder t) hr
  | error e => exact hr

/-- The refusals of a first part that ends well are all survived. -/
theorem bind (h : Survives folder op n) (hf : ∀ a, Endures folder (f a) m) (hk : n + m ≤ k) :
    Endures folder (op >>= f) k := by
  refine Program.Always.bind (Program.Always.mono h fun t r hr => ?_)
  cases r with
  | ok a =>
    refine Program.Always.mono (hf a) fun t' b ht' => ?_
    have hle := survived_append_le folder t t'
    simp only at hr
    omega
  | error e =>
    change survived folder (t ++ []) ≤ k
    rw [List.append_nil]
    exact Nat.le_trans (Nat.le_add_right_of_le hr) hk

theorem quiet_bind (h : Only (Effect.Avoids "Sync") op) (hf : ∀ a, Endures folder (f a) n) :
    Endures folder (op >>= f) n :=
  bind (n := 0) (.of_only h) hf (Nat.le_of_eq (Nat.zero_add n))

/-- What follows and asks for no messages changes nothing. -/
theorem bind_quiet (h : Endures folder op n) (hf : ∀ a, Only (Effect.Avoids "Sync") (f a)) :
    Endures folder (op >>= f) n := by
  have happend {t t' : List Asked} (ht' : ∀ x ∈ t', x.1.Avoids "Sync")
      (ht : survived folder t ≤ n) : survived folder (t ++ t') ≤ n := by
    rw [survived, repliesTo_append, repliesTo_of_avoids ht', List.append_nil]
    exact ht
  refine Program.Always.bind (Program.Always.mono h fun t r hr => ?_)
  cases r with
  | ok a => exact (Program.Always.of_only (hf a)).mono fun t' _ ht' => happend ht' hr
  | error e => exact happend (List.forall_mem_nil _) hr

theorem attempt (h : Endures folder op n) : Endures folder (Operation.ofProgram op.run) n := by
  refine Program.Always.bind (Program.Always.mono h fun t r hr => ?_)
  change survived folder (t ++ []) ≤ n
  rw [List.append_nil]
  exact hr

theorem withLock {lock : String} (h : Endures folder op n) :
    Endures folder (Operation.withLock lock op) n := by
  intro taken
  cases taken with
  | false => exact Nat.zero_le n
  | true =>
    change Program.Always (op.run >>= fun r => Program.effect (.release lock) >>= fun _ => pure r) _
    refine Program.Always.bind (Program.Always.mono h fun t r hr answer => ?_)
    change (repliesTo "Sync" (t ++ [⟨.release lock, answer⟩])).dropLast.countP _ ≤ n
    rw [repliesTo_append]
    change (repliesTo "Sync" t ++ []).dropLast.countP _ ≤ n
    rw [List.append_nil]
    exact hr

end Endures

theorem endures_syncFolder : Endures folder (syncFolder sess folder) 2 := by
  have hcomplete (stats : Stats) : Endures folder (completeAll sess folder stats) 1 := by
    refine .quiet_bind (.ofProgram (Only.ask trivial)) fun r => ?_
    have hdone (stats : Stats) : Endures folder (pure stats) 1 :=
      .of_survives (.of_only (.pure stats))
    split
    · exact hdone _
    · exact hdone _
    · refine (Endures.of_survives (survives_complete sess folder _)).attempt.bind_quiet fun r => ?_
      cases r <;> exact .pure _
  refine .withLock (.bind (m := 1) (survives_pass sess folder _) (fun c => ?_) (Nat.le_refl 2))
  refine .quiet_bind (c.batch.only_write (fun _ _ => trivial) .any) fun n => ?_
  refine .quiet_bind (only_commit (fun _ _ => trivial) c) fun _ => ?_
  refine .quiet_bind (only_announce (fun _ => trivial) folder _) fun _ => ?_
  refine (hcomplete _).bind_quiet fun stats => ?_
  exact Only.bind (.ask trivial) fun _ => .pure _

end Collection

/-- Whatever the server answers, a pass over the hierarchy and a pass over a collection end within
bounds, and a sync within twice those of a pass over a collection. -/
theorem passes_are_bounded [Medium σ] (s : Surroundings σ) (sess : Session) (w : World σ) :
    Tally.of ((Hierarchy.pass sess).trace s w) ≤ ⟨0, sess.maxRounds, 2, 1⟩ ∧
    ∀ folder,
      (∀ errand,
        Tally.of ((Collection.pass sess folder errand).trace s w) ≤
          ⟨sess.maxRounds, sess.maxRounds, 4, 1⟩ ∧
        Collection.survived folder ((Collection.pass sess folder errand).trace s w) ≤ 1) ∧
      Tally.of ((Collection.syncFolder sess folder).trace s w) ≤
        ⟨2 * sess.maxRounds, 2 * sess.maxRounds, 8, 2⟩ ∧
      Collection.survived folder ((Collection.syncFolder sess folder).trace s w) ≤ 2 := by
  refine ⟨(Hierarchy.costs_pass sess).trace_le s w, fun folder => ⟨fun errand => ⟨?_, ?_⟩, ?_, ?_⟩⟩
  · exact (Collection.costs_pass sess folder errand).trace_le s w
  · have hpass := Collection.Endures.of_survives (Collection.survives_pass sess folder errand)
    exact Program.Always.run hpass s w
  · have hsync := (Collection.costs_syncFolder sess folder).trace_le s w
    refine Tally.le_trans hsync ?_
    simp only [Tally.le_iff, Tally.syncs_add, Tally.folderSyncs_add, Tally.provisions_add,
      Tally.passes_add, Collection.passTally]
    omega
  · exact Program.Always.run (Collection.endures_syncFolder sess folder) s w

end MailSync
