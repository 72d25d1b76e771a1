import MailSync.Collection.Pass
import MailSync.Proofs.Hierarchy.Pass

/-!
# Rounds of a pass over a collection

What one round can do to the progress of a pass, and the rule for a whole run of rounds: what each
round carries on holds at the end. A pass touches the mailbox only where it runs the policy
handshake or a pass over the hierarchy.
-/
namespace MailSync
open Mailbox (Memory)
open Operation (Ensures)

namespace Collection

/-- What a reply to a round comes to, for the key that was sent. -/
def outcome (folder : String) (key : Option String) (result : Except TransportError Reply) :
    Except Failure (Round Batch) := do
  roundOfDocument folder key (← Exchange.documentOf "Sync" result)

theorem roundOf_verdict_iff (folder : String) (key : Option String) {r : Response} {v : Verdict}
    (hok : v ≠ .ok) (hmalformed : v ≠ .malformed) :
    (∃ f, roundOf folder key r = .error f ∧ f.verdict = v) ↔ Collection.verdict r.status = v := by
  simp only [roundOf]
  by_cases hv : Collection.verdict r.status = .ok
  · rw [if_pos hv, hv]
    cases r.key <;> cases SyncKey.isInitial key <;>
      simp [Failure.malformed, hok.symm, hmalformed.symm]
  · rw [if_neg hv]
    simp

/-- Whichever key was sent, a reply is refused for the same reason, unless it makes no sense. -/
theorem outcome_verdict_iff (folder : String) (key key' : Option String)
    {reply : Except TransportError Reply} {v : Verdict} (hok : v ≠ .ok)
    (hmalformed : v ≠ .malformed) :
    (∃ f, outcome folder key reply = .error f ∧ f.verdict = v) ↔
      ∃ f, outcome folder key' reply = .error f ∧ f.verdict = v := by
  unfold outcome
  rcases Exchange.documentOf "Sync" reply with f | _ | root
  · rfl
  · have hnone (key : Option String) :
        ¬∃ f, roundOfDocument folder key none = .error f ∧ f.verdict = v := by
      simp only [roundOfDocument]
      cases SyncKey.isInitial key <;> simp [Failure.malformed, hmalformed.symm]
    exact iff_of_false (hnone key) (hnone key')
  · have hsome (key : Option String) : roundOfDocument folder key (some root) =
        (Exchange.ofDocument (Response.ofDocument root folder) >>= roundOf folder key) := rfl
    change (∃ f, roundOfDocument folder key (some root) = .error f ∧ _) ↔
      ∃ f, roundOfDocument folder key' (some root) = .error f ∧ _
    rw [hsome, hsome]
    cases Exchange.ofDocument (Response.ofDocument root folder) with
    | error f => rfl
    | ok r =>
      exact (roundOf_verdict_iff folder key hok hmalformed).trans
        (roundOf_verdict_iff folder key' hok hmalformed).symm

/-- A reply with a response in its body. -/
def Response.reply (r : Response) (folder : String) : Except TransportError Reply :=
  .ok ⟨200, (r.toDocument folder).encode⟩

/-- The request of a round as it is posted. -/
def wire (settings : ProtocolSettings) (request : Request) (key : Option String) :
    MailSync.Request :=
  Exchange.request "Sync" (request.toDocument (SyncKey.sent key) (SyncKey.isInitial key))
    settings.commandTimeout

namespace Progress

/-- The server has more, but has left the key in use as it was. -/
structure Stalls (p : Progress) (round : Round Batch) : Prop where
  more : round.more = true
  inUse : SyncKey.isInitial p.key = false
  same : p.key = some round.key

/-- Progress once a round was accepted. -/
structure Takes (p : Progress) (round : Round Batch) (q : Progress) : Prop where
  stored : q.stored = p.stored
  key : q.key = some round.key
  batch : q.batch = p.batch.extend round.batch
  pending : q.pending = if SyncKey.isInitial p.key then p.pending else []
  restarted : q.restarted = p.restarted
  provisioned : q.provisioned = p.provisioned
  refreshed : q.refreshed = p.refreshed
  grown : p.Stalls round → q.windowSize = p.windowSize + windowStep ∧ q.windowSize ≤ windowLimit
  kept : ¬p.Stalls round → q.windowSize = p.windowSize

/-- What a round can lead to. -/
inductive Leads (p : Progress) (errand : Errand) (folder : String) (mayProvision : Bool) :
    Except Failure (Round Batch) → Next → Prop
  | more {round : Round Batch} {q : Progress} (more : round.more = true) (takes : p.Takes round q) :
      Leads p errand folder mayProvision (.ok round) (.again q)
  | done {round : Round Batch} {q : Progress} (more : round.more = false)
      (takes : p.Takes round q) : Leads p errand folder mayProvision (.ok round) (.finish q)
  | stalled (round : Round Batch) :
      Leads p errand folder mayProvision (.ok round) (.fail (stalled folder))
  | restart {f : Failure} (verdict : f.verdict = .keyInvalid) (first : p.restarted = false) :
      Leads p errand folder mayProvision (.error f)
        (.again { p.restart errand none with restarted := true })
  | refresh {f : Failure} (verdict : f.verdict = .hierarchyChanged)
      (first : p.refreshed = false) :
      Leads p errand folder mayProvision (.error f) (.refresh { p with refreshed := true })
  | provision {f : Failure} (verdict : f.verdict = .provisioningRequired)
      (first : p.provisioned = false) (may : mayProvision = true) :
      Leads p errand folder mayProvision (.error f) (.provision { p with provisioned := true })
  | fail (f : Failure) : Leads p errand folder mayProvision (.error f) (.fail (f.toError folder))

theorem leads_next (p : Progress) (errand : Errand) (folder : String) (mayProvision : Bool)
    (o : Except Failure (Round Batch)) :
    p.Leads errand folder mayProvision o (p.next errand folder mayProvision o) := by
  cases o with
  | ok round =>
    simp only [next, accept]
    by_cases hm : round.more
    · rw [if_pos hm]
      by_cases hk : ¬SyncKey.isInitial p.key ∧ p.key = some round.key
      · have hstalls : p.Stalls round := ⟨hm, Bool.eq_false_iff.mpr hk.1, hk.2⟩
        rw [if_pos hk]
        by_cases hw : windowLimit < p.windowSize + windowStep
        · rw [if_pos hw]
          exact .stalled round
        · rw [if_neg hw]
          exact .more hm ⟨rfl, rfl, rfl, rfl, rfl, rfl, rfl,
            fun _ => ⟨rfl, UInt32.not_lt.mp hw⟩, fun h => absurd hstalls h⟩
      · rw [if_neg hk]
        exact .more hm ⟨rfl, rfl, rfl, rfl, rfl, rfl, rfl,
          fun h => absurd ⟨Bool.eq_false_iff.mp h.inUse, h.same⟩ hk, fun _ => rfl⟩
    · rw [if_neg hm]
      exact .done (Bool.eq_false_iff.mpr hm) ⟨rfl, rfl, rfl, rfl, rfl, rfl, rfl,
        fun h => absurd h.more hm, fun _ => rfl⟩
  | error f =>
    simp only [next]
    split_ifs with hk hh hp
    · exact .restart hk.1 (Bool.eq_false_iff.mpr hk.2)
    · exact .refresh hh.1 (Bool.eq_false_iff.mpr hh.2)
    · exact .provision hp.1 (Bool.eq_false_iff.mpr hp.2.1) hp.2.2
    · exact .fail f

end Progress

theorem collect_succ (sess : Session) (folder : String) (errand : Errand) (window : Window)
    (left : Nat) (p : Progress) :
    collect sess folder errand window (left + 1) p = (do
      Operation.checkCancelled
      match p.next errand folder sess.mayProvision (← sess.turn
        (exchange sess.settings · (p.request errand folder window) p.key)) with
      | .again p => collect sess folder errand window left p
      | .finish p => pure (p, left)
      | .refresh p =>
        discard (Hierarchy.pass sess)
        requireFolder folder
        let stored ← Mailbox.key folder
        collect sess folder errand window left { p.restart errand stored with stored }
      | .provision p =>
        sess.provision
        collect sess folder errand window left p
      | .fail e => throw e) := by
  rw [Session.turn_bind]
  rfl

/-- What a pass does next. The handshake leaves its progress as it is, and after a pass over the
hierarchy it begins again from the key that is stored then. -/
def Next.step (sess : Session) (folder : String) (errand : Errand) : Next → Step Progress
  | .again p => .again p
  | .finish p => .finish p
  | .refresh p => .detour do
    discard (Hierarchy.pass sess)
    requireFolder folder
    let stored ← Mailbox.key folder
    pure { p.restart errand stored with stored }
  | .provision p => .after sess.provision p
  | .fail e => .fail e

def rounds (sess : Session) (folder : String) (errand : Errand) (window : Window) :
    Rounds Progress where
  request p := wire sess.settings (p.request errand folder window) p.key
  step p r :=
    (p.next errand folder sess.mayProvision (outcome folder p.key r)).step sess folder errand
  limit := roundLimit folder sess.maxRounds

section
variable (sess : Session) (folder : String) (errand : Errand) (window : Window)

theorem rounds_step (p : Progress) (r : Except TransportError Reply) :
    (rounds sess folder errand window).step p r =
      (p.next errand folder sess.mayProvision (outcome folder p.key r)).step sess folder errand :=
  rfl

theorem collect_eq (left : Nat) (p : Progress) :
    collect sess folder errand window left p =
      (rounds sess folder errand window).collect sess left p := by
  induction left generalizing p with
  | zero => rfl
  | succ left ih =>
    rw [collect_succ, Rounds.collect]
    refine congrArg (Operation.checkCancelled >>= ·) (funext fun _ => ?_)
    refine Rounds.turn_bind_eq (g := outcome folder p.key) (fun account => rfl) fun r => ?_
    rw [rounds_step]
    cases p.next errand folder sess.mayProvision (outcome folder p.key r) with
    | again q => exact ih q
    | finish q => rfl
    | refresh q => simp only [Next.step, bind_assoc, pure_bind, ih]
    | provision q => simp only [Next.step, Step.after, bind_assoc, pure_bind, ih]
    | fail e => rfl

end

/-- A pass over the hierarchy in between, after which the folder may be gone. -/
theorem ensures_refresh_step {s : Surroundings Memory} {sess : Session} {folder : String}
    {errand : Errand} {p : Progress} {w : World Memory} {I F : Progress → World Memory → Prop}
    {E : SyncError → World Memory → Prop}
    (h : Ensures (Hierarchy.pass sess) s w (fun _ v => Ensures (requireFolder folder) s v
      (fun _ v => I { p.restart errand (v.mailbox.key? folder) with
        stored := v.mailbox.key? folder } v) E) E) :
    ((Next.refresh p).step sess folder errand).Ensures s w I F E := by
  refine Ensures.bind (.discard (Q := fun _ v => Ensures (requireFolder folder) s v _ E) h) ?_
  intro _ v hv
  exact hv.bind fun _ v hv => .bind_ok (Mailbox.runIn_key folder) (.pure hv)

theorem runIn_windowOf {s : Surroundings Memory} {w : World Memory} {folder : String}
    (h : folder ∈ w.mailbox.folders) :
    (windowOf folder).runIn s w = (.ok ((w.mailbox.window? folder).getD .standard), w) := by
  rw [windowOf, Operation.runIn_bind_ok (runIn_requireFolder h),
    Operation.runIn_bind_ok (Mailbox.runIn_window? folder), Operation.runIn_pure]

/-- A pass is its rounds, for a folder that is there. -/
theorem ensures_pass_of_collect {s : Surroundings Memory} {sess : Session} {folder : String}
    {errand : Errand} {w : World Memory} {Q : Collected → World Memory → Prop}
    {E : SyncError → World Memory → Prop}
    (hno : folder ∉ w.mailbox.folders → E (.folderNotFound folder) w)
    (hcollect : folder ∈ w.mailbox.folders →
      Ensures ((rounds sess folder errand
        (((w.mailbox.window? folder).getD .standard).cappedAt sess.maxWindow)).collect sess
          sess.maxRounds (.start errand (w.mailbox.key? folder))) s w
        (fun r v => ∀ c, Q ⟨r.1.batch, r.1.stored, r.1.key, sess.maxRounds - r.2⟩
          { v with cancelled := c } ∧ E .cancelled { v with cancelled := c }) E) :
    Ensures (pass sess folder errand) s w Q E := by
  by_cases hf : folder ∈ w.mailbox.folders
  · refine .bind_ok (runIn_requireFolder hf)
      (.bind_ok (runIn_windowOf hf) (.bind_ok (Mailbox.runIn_key folder) ?_))
    rw [collect_eq]
    refine (hcollect hf).bind fun ⟨p, left⟩ v hv => ?_
    exact .bind (R := fun _ u => Q _ u) (.checkCancelled (fun c => (hv c).1) fun c => (hv c).2)
      fun _ u hu => .pure hu
  · unfold Ensures pass
    rw [Operation.runIn_bind, runIn_requireFolder_of_not_mem hf]
    exact hno hf

end Collection
end MailSync
