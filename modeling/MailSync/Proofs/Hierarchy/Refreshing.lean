import MailSync.Client
import MailSync.Proofs.Hierarchy.Meaning
import MailSync.Proofs.Retrying
import MailSync.Proofs.Wbxml.Framing

/-!
# A refresh is asked for once

Callers repeat what fails with an error that may pass by itself. A refresh of the hierarchy never
fails with one, since it answers "no" to every such failure of its pass. So to repeat it is to run
it once, whatever the policy is: a reply that does not get through is the end of it.
-/
namespace MailSync
open Mailbox (Memory hierarchyKeyMark)

/-- Nothing happens while a request is in flight, and the user never cancels. -/
structure Surroundings.Undisturbed {σ : Type} (s : Surroundings σ) : Prop where
  inFlight : ∀ w, s.inFlight w = w
  cancels : ∀ w, s.cancels w = false

/-- Replies in the order of the requests, and nothing else. -/
def Script.ofReplies (replies : List (Except TransportError Reply)) (id : String) :
    Script Memory := ⟨replies, [], id⟩

theorem Script.undisturbed_ofReplies (replies : List (Except TransportError Reply)) (id : String) :
    (ofReplies replies id).surroundings.Undisturbed := ⟨fun _ => rfl, fun _ => rfl⟩

namespace Hierarchy

/-- Whatever a refresh comes to, another attempt is no use. -/
theorem conclusive_refresh (sess : Session) :
    (refresh sess).run.Always fun _ r => Conclusive r := by
  refine Program.Always.bind ((Program.Always.yields _).mono fun _ r _ => ?_)
  cases r with
  | ok b => trivial
  | error e =>
    cases e with
    | accessDenied | authenticationFailed | cancelled | syncInProgress => exact rfl
    | _ => trivial

section
variable {s : Surroundings Memory} {sess : Session} {w : World Memory}

/-- What the server answers to the next request of a pass. -/
def nextReply (s : Surroundings Memory) (sess : Session) (key : Option String) (w : World Memory) :
    Except TransportError Reply :=
  s.reply (w.record (.sent (sess.accountIn w.mailbox) (wire sess.settings key)))
    (sess.accountIn w.mailbox) (wire sess.settings key)

theorem runIn_checkCancelled_of_undisturbed (hs : s.Undisturbed) (hw : w.cancelled = false) :
    Operation.checkCancelled.runIn s w = (.ok (), w) := by
  obtain ⟨mailbox, locks, cancelled, history⟩ := w
  obtain rfl : cancelled = false := hw
  rw [Operation.runIn_checkCancelled, hs.cancels]
  rfl

theorem run_exchange_of_undisturbed (hs : s.Undisturbed) (hw : w.cancelled = false)
    (p : Progress) :
    (exchange sess.settings (sess.accountIn w.mailbox) p.key).run s w =
      (outcome (SyncKey.isInitial p.key) (nextReply s sess p.key w),
        (rounds sess).replied sess p w (nextReply s sess p.key w) false) := by
  have hpost : (Effect.post (sess.accountIn w.mailbox) (wire sess.settings p.key)).perform s w =
      (nextReply s sess p.key w,
        (rounds sess).replied sess p w (nextReply s sess p.key w) false) := by
    simp [Effect.perform, hs.inFlight, nextReply, rounds, Rounds.replied, World.record,
      World.exchanged, hw]
  change (Program.effect (.post _ (wire sess.settings p.key)) >>= _ >>= _).run s w = _
  rw [Program.run_bind, Program.run_bind, Program.run_effect, hpost]
  rfl

theorem runIn_turn_of_undisturbed (hs : s.Undisturbed) (hw : w.cancelled = false)
    (p : Progress) :
    (sess.turn (exchange sess.settings · p.key)).runIn s w =
      (.ok (outcome (SyncKey.isInitial p.key) (nextReply s sess p.key w)),
        (rounds sess).replied sess p w (nextReply s sess p.key w) false) := by
  have hlift := Operation.runIn_ofProgram
    (exchange sess.settings (sess.accountIn w.mailbox) p.key) s w
  rw [run_exchange_of_undisturbed hs hw] at hlift
  have hlook := runIn_checkCancelled_of_undisturbed hs
    (w := (rounds sess).replied sess p w (nextReply s sess p.key w) false) rfl
  refine (Operation.runIn_bind_ok sess.runIn_snapshot _).trans ?_
  refine (Operation.runIn_bind_ok hlift _).trans ?_
  exact Operation.runIn_bind_ok hlook _

/-- A round in which nothing else happens goes by the next reply. -/
theorem runIn_collect_of_next (hs : s.Undisturbed) (hw : w.cancelled = false) (left : Nat)
    {p : Progress} (n : Next) (h : p.next sess.mayProvision
      (outcome (SyncKey.isInitial p.key) (nextReply s sess p.key w)) = n) :
    (collect sess (left + 1) p).runIn s w =
      (match n with
        | .again q => collect sess left q
        | .finish q => pure (q, left)
        | .provision q => do
          sess.provision
          collect sess left q
        | .fail e => throw e : Operation _).runIn s
        ((rounds sess).replied sess p w (nextReply s sess p.key w) false) := by
  rw [collect_succ]
  refine (Operation.runIn_bind_ok (runIn_checkCancelled_of_undisturbed hs hw) _).trans ?_
  refine (Operation.runIn_bind_ok (runIn_turn_of_undisturbed hs hw p) _).trans ?_
  generalize p.next sess.mayProvision _ = m at h
  subst h
  cases m with
  | again | finish | provision | fail => rfl

/-- A pass whose rounds came to an end lands. -/
theorem runIn_pass_of_ok (hs : s.Undisturbed) {locks : Locks}
    (hfree : w.locks.acquire? Locks.hierarchy = some locks) {p : Progress} {left : Nat}
    {v : World Memory} (hv : v.cancelled = false)
    (h : (collect sess sess.maxRounds (.start w.mailbox.extras[hierarchyKeyMark]?)).runIn s
      { w with locks } = (.ok (p, left), v)) :
    ∃ stats locks, (pass sess).runIn s w =
      (.ok stats, { landed w.mailbox.extras[hierarchyKeyMark]? p v with locks }) := by
  have hstored : Mailbox.hierarchyKey.runIn s { w with locks } =
      (.ok w.mailbox.extras[hierarchyKeyMark]?, { w with locks }) := Mailbox.runIn_hierarchyKey
  rw [pass, Operation.runIn_withLock_free hfree, Operation.runIn_bind_ok hstored,
    Operation.runIn_bind_ok h, Operation.runIn_bind_ok (runIn_checkCancelled_of_undisturbed hs hv),
    Operation.runIn_bind_ok (runIn_write p.batch s v)]
  unfold landed
  split_ifs with hk
  · rw [Operation.runIn_bind_ok (Mailbox.runIn_setHierarchyKey p.key)]
    exact ⟨_, _, rfl⟩
  · exact ⟨_, _, rfl⟩

/-- A pass fails as its rounds do. -/
theorem runIn_pass_of_error {locks : Locks}
    (hfree : w.locks.acquire? Locks.hierarchy = some locks) {e : SyncError} {v : World Memory}
    (h : (collect sess sess.maxRounds (.start w.mailbox.extras[hierarchyKeyMark]?)).runIn s
      { w with locks } = (.error e, v)) :
    ∃ locks, (pass sess).runIn s w = (.error e, { v with locks }) := by
  have hstored : Mailbox.hierarchyKey.runIn s { w with locks } =
      (.ok w.mailbox.extras[hierarchyKeyMark]?, { w with locks }) := Mailbox.runIn_hierarchyKey
  rw [pass, Operation.runIn_withLock_free hfree, Operation.runIn_bind_ok hstored,
    Operation.runIn_bind, h]
  exact ⟨_, rfl⟩

end

theorem exists_root_of_response? {reply : Except TransportError Reply} {r : Response}
    (h : response? reply = some r) :
    ∃ root, Exchange.documentOf "FolderSync" reply = .ok (some root) ∧
      Response.ofDocument root = .ok r := by
  unfold response? at h
  split at h
  · next root hroot => exact ⟨root, hroot, toOption_eq_some_iff.mp h⟩
  · cases h

theorem outcome_of_response {fresh : Bool} {reply : Except TransportError Reply} {r : Response}
    {key : String} (hr : response? reply = some r) (hstatus : r.status = 1)
    (hkey : r.key = some key) : outcome fresh reply = .ok ⟨key, false, ⟨fresh, r.deltas⟩⟩ := by
  obtain ⟨root, hroot, hread⟩ := exists_root_of_response? hr
  have hverdict : verdict r.status = .ok := if_pos hstatus
  have houtcome : outcome fresh reply =
      (Exchange.ofDocument (Response.ofDocument root) >>= roundOf fresh) := by
    rw [outcome, hroot]
    rfl
  calc outcome fresh reply
      = roundOf fresh r := by rw [houtcome, hread]; rfl
    _ = .ok ⟨key, false, ⟨fresh, r.deltas⟩⟩ := by simp only [roundOf, hverdict, hkey, if_true]

/-- A refresh answers "yes" to a pass that ends well. -/
theorem runIn_refresh_of_ok {s : Surroundings Memory} {sess : Session} {w v : World Memory}
    {stats : Stats} (h : (pass sess).runIn s w = (.ok stats, v)) :
    (refresh sess).runIn s w = (.ok true, v) := by
  have hbody : (do discard (pass sess); pure true : Operation Bool).runIn s w = (.ok true, v) := by
    have hdiscard : (discard (pass sess)).runIn s w = (.ok (), v) := by
      rw [Operation.runIn_discard, h]
      rfl
    exact Operation.runIn_bind_ok hdiscard _
  rw [refresh, Operation.runIn_tryCatch, hbody]

/-- A refresh answers "no" to a pass whose request did not get through. -/
theorem runIn_refresh_of_network {s : Surroundings Memory} {sess : Session} {w v : World Memory}
    {fault : NetworkFault} {detail : String}
    (h : (pass sess).runIn s w = (.error (.network fault detail), v)) :
    (refresh sess).runIn s w = (.ok false, v) := by
  have hbody : (do discard (pass sess); pure true : Operation Bool).runIn s w =
      (.error (.network fault detail), v) := by
    rw [Operation.runIn_bind, Operation.runIn_discard, h]
    rfl
  rw [refresh, Operation.runIn_tryCatch, hbody]
  rfl

section
variable {sess : Session} (hrounds : 1 ≤ sess.maxRounds) (m : Memory)
  (rest : List (Except TransportError Reply)) (id : String)
include hrounds

/-- A refresh whose first request does not get through. -/
theorem runIn_refresh_of_first_error (e : TransportError) :
    ∃ v, (refresh sess).runIn (Script.ofReplies (.error e :: rest) id).surroundings (.start m) =
        (.ok false, v) ∧
      v.exchanges = [(wire sess.settings m.extras[hierarchyKeyMark]?, .error e)] ∧
      v.mailbox = m := by
  obtain ⟨rounds, hsucc⟩ := Nat.exists_eq_add_of_le' hrounds
  obtain ⟨locks, hfree⟩ : ∃ locks, Locks.free.acquire? Locks.hierarchy = some locks := ⟨_, rfl⟩
  have hs := Script.undisturbed_ofReplies (.error e :: rest) id
  have hcollect : (collect sess (rounds + 1) (.start m.extras[hierarchyKeyMark]?)).runIn _
      { World.start m with locks } = (.error (.network e.fault e.message), _) :=
    runIn_collect_of_next hs rfl rounds (.fail (.network e.fault e.message)) rfl
  rw [← hsucc] at hcollect
  obtain ⟨locks', hpass⟩ := runIn_pass_of_error (w := .start m) hfree hcollect
  exact ⟨_, runIn_refresh_of_network hpass, rfl, rfl⟩

/-- A refresh whose first request is answered. -/
theorem runIn_refresh_of_first_reply (hm : m.Built) {reply : Except TransportError Reply}
    {r : Response} {key : String} (hr : response? reply = some r) (hstatus : r.status = 1)
    (hkey : r.key = some key) :
    ∃ v, (refresh sess).runIn (Script.ofReplies (reply :: rest) id).surroundings (.start m) =
        (.ok true, v) ∧
      v.exchanges = [(wire sess.settings m.extras[hierarchyKeyMark]?, reply)] ∧
      (∀ id : String, v.mailbox.folders[id]?.map (·.record) = (r.deltas.foldl Delta.apply
        (if SyncKey.isInitial m.extras[hierarchyKeyMark]? then ∅ else .of m))[id]?) ∧
      v.mailbox.extras[hierarchyKeyMark]? = some key := by
  obtain ⟨rounds, hsucc⟩ := Nat.exists_eq_add_of_le' hrounds
  obtain ⟨locks, hfree⟩ : ∃ locks, Locks.free.acquire? Locks.hierarchy = some locks := ⟨_, rfl⟩
  have hs := Script.undisturbed_ofReplies (reply :: rest) id
  let p : Progress := ⟨some key, ⟨SyncKey.isInitial m.extras[hierarchyKeyMark]?, r.deltas⟩,
    false, false⟩
  have hnext : (Progress.start m.extras[hierarchyKeyMark]?).next sess.mayProvision
      (outcome (SyncKey.isInitial m.extras[hierarchyKeyMark]?) reply) = .finish p := by
    rw [outcome_of_response hr hstatus hkey]
    simp [Progress.next, Progress.start, Batch.extend, Batch.none, p]
  have hcollect : (collect sess (rounds + 1) (.start m.extras[hierarchyKeyMark]?)).runIn _
      { World.start m with locks } = (.ok (p, rounds), _) :=
    runIn_collect_of_next hs rfl rounds (.finish p) hnext
  rw [← hsucc] at hcollect
  obtain ⟨stats, locks', hpass⟩ := runIn_pass_of_ok (w := .start m) hs hfree rfl hcollect
  have hheld : (World.start m).Held ((Hierarchy.rounds sess).replied sess
      (.start m.extras[hierarchyKeyMark]?) { World.start m with locks } reply false) :=
    ((World.Held.refl (World.start m)).locks locks).trans (World.Still.exchanged ..).held
  refine ⟨_, runIn_refresh_of_ok hpass, ?_, fun id => ?_, hierarchyKey_landed hm.keyed hheld p⟩
  · exact (landed_eq _ _ _).2.2
  · have hfolder := folders_landed hm.keyed hheld m.extras[hierarchyKeyMark]? p id
    exact (congrArg _ hfolder).trans (record_under ..)

end

/-- However often a refresh may be repeated, it is not: what it comes to is settled by the first
reply. If that is an answer the folders become those of the server, and if the request does not get
through the refresh ends with "no", with attempts left or not, and nothing is asked again. -/
theorem refresh_is_not_repeated (policy : RetryPolicy) {sess : Session}
    (hrounds : 1 ≤ sess.maxRounds) {m : Memory} (hm : m.Built)
    {reply : Except TransportError Reply} {r : Response} {key : String}
    (hr : response? reply = some r) (hstatus : r.status = 1) (hkey : r.key = some key)
    (errors : List TransportError) (rest : List (Except TransportError Reply)) (id : String) :
    (Client.refreshFolders sess).retrying policy = Client.refreshFolders sess ∧
      ∃ v, ((Client.refreshFolders sess).retrying policy).runIn
          (Script.ofReplies (errors.map .error ++ reply :: rest) id).surroundings (.start m) =
          (.ok errors.isEmpty, v) ∧
        v.exchanges = [(wire sess.settings m.extras[hierarchyKeyMark]?,
          (errors.head?.map .error).getD reply)] ∧
        (errors ≠ [] → v.mailbox = m) ∧
        (errors = [] → v.mailbox.extras[hierarchyKeyMark]? = some key ∧
          ∀ id : String, v.mailbox.folders[id]?.map (·.record) = (r.deltas.foldl Delta.apply
            (if SyncKey.isInitial m.extras[hierarchyKeyMark]? then ∅ else .of m))[id]?) := by
  have honce : (Client.refreshFolders sess).retrying policy = Client.refreshFolders sess :=
    Operation.retrying_eq_self (conclusive_refresh sess) policy
  refine ⟨honce, ?_⟩
  rw [honce]
  cases errors with
  | nil =>
    obtain ⟨v, hrun, hexchanges, hfolders, hstored⟩ :=
      runIn_refresh_of_first_reply hrounds m rest id hm hr hstatus hkey
    exact ⟨v, hrun, hexchanges, fun h => absurd rfl h, fun _ => ⟨hstored, hfolders⟩⟩
  | cons e errors =>
    obtain ⟨v, hrun, hexchanges, hmailbox⟩ :=
      runIn_refresh_of_first_error hrounds m (errors.map .error ++ reply :: rest) id e
    exact ⟨v, hrun, hexchanges, fun _ => hmailbox, fun h => nomatch h⟩

/-- What happens when a server is out of reach for one request. -/
def outage : TransportError := ⟨.timeout, "no answer"⟩

/-- What a server says that has one folder. -/
def inboxOnly : Response := ⟨1, some "9", [.add ⟨"5", some "0", "Inbox", some 2⟩]⟩

/-- With two more attempts left, a request that is lost ends the refresh; if it is answered, the
folder is there. -/
theorem outage_ends_refresh :
    (1 ≤ Session.sample.maxRounds ∧ Memory.empty.Built ∧
        response? inboxOnly.reply = some inboxOnly) ∧
      (∃ v, ((Client.refreshFolders .sample).retrying .standard).runIn
          (Script.ofReplies [.error outage, inboxOnly.reply] "").surroundings (.start .empty) =
          (.ok false, v) ∧ v.mailbox = .empty) ∧
      ∃ v, ((Client.refreshFolders .sample).retrying .standard).runIn
          (Script.ofReplies [inboxOnly.reply] "").surroundings (.start .empty) = (.ok true, v) ∧
        v.mailbox.extras[hierarchyKeyMark]? = some "9" ∧
        v.mailbox.folders["5"]?.map (·.record) = some ⟨"5", "Inbox", .inbox, none⟩ := by
  have hrounds : 1 ≤ Session.sample.maxRounds := by decide
  have hb : Memory.empty.Built := ⟨[], rfl⟩
  have hr : response? inboxOnly.reply = some inboxOnly := rfl
  have hlate := refresh_is_not_repeated .standard hrounds hb hr rfl rfl [outage] [] ""
  have hearly := refresh_is_not_repeated .standard hrounds hb hr rfl rfl [] [] ""
  obtain ⟨-, v, hrun, -, hmailbox, -⟩ := hlate
  obtain ⟨-, u, hrun', -, -, hlanded⟩ := hearly
  obtain ⟨hkey, hfolders⟩ := hlanded rfl
  refine ⟨⟨hrounds, hb, hr⟩, ⟨v, hrun, hmailbox (List.cons_ne_nil _ _)⟩, u, hrun', hkey, ?_⟩
  exact hfolders "5"

/-- Attempts that are left are no help against an outage. -/
theorem not_every_outage_passes :
    ¬∀ (policy : RetryPolicy) (sess : Session) (m : Memory) (errors : List TransportError)
        (reply : Except TransportError Reply) (r : Response) (key : String)
        (rest : List (Except TransportError Reply)) (id : String),
      2 ≤ policy.maxAttempts.toNat → errors.length < policy.maxAttempts.toNat →
      1 ≤ sess.maxRounds → m.Built →
      response? reply = some r → r.status = 1 → r.key = some key →
      (((Client.refreshFolders sess).retrying policy).runIn
        (Script.ofReplies (errors.map .error ++ reply :: rest) id).surroundings (.start m)).1 =
          .ok true := by
  intro h
  have htwo := h { RetryPolicy.standard with maxAttempts := 2 } .sample .empty [outage]
    inboxOnly.reply inboxOnly "9" [] "" (by decide) (by decide) (by decide) ⟨[], rfl⟩ rfl rfl rfl
  have honce (policy : RetryPolicy) :
      (Client.refreshFolders .sample).retrying policy = Client.refreshFolders .sample :=
    Operation.retrying_eq_self (conclusive_refresh .sample) policy
  have hrounds : 1 ≤ Session.sample.maxRounds := by decide
  obtain ⟨v, hrun, -, -⟩ :=
    runIn_refresh_of_first_error hrounds .empty [inboxOnly.reply] "" outage
  rw [honce] at htwo
  have hfalse := htwo.symm.trans (congrArg Prod.fst hrun)
  exact absurd (Except.ok.inj hfalse) (by decide)

end Hierarchy
end MailSync
