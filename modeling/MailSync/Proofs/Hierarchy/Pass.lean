import MailSync.Proofs.DevicePolicy.Handshake
import MailSync.Proofs.Hierarchy.Writing
import MailSync.Proofs.InRounds

/-!
# What a pass over the hierarchy does to a mailbox

Until the last round is in, a pass changes nothing but the policy key. Then nothing can go wrong
any more: all calls of the difference succeed, and so does storing the key. So a pass that fails has
left the mailbox alone, unless the server ordered a wipe.
-/
namespace MailSync
open Mailbox (Memory hierarchyKeyMark)
open Operation (Ensures)

variable {s : Surroundings Memory}

/-- How a pass over the hierarchy fails: the mailbox is as it was, but for the policy key, or it
was wiped on order. -/
def World.Spared (w : World Memory) (e : SyncError) (v : World Memory) : Prop :=
  w.Held v ∨ e = .accessDenied ∧ w.Wiped v

theorem World.Refused.spared {w v u : World Memory} {e : SyncError} (h : w.Held v)
    (h' : v.Refused e u) : w.Spared e u := by
  rcases h' with h' | ⟨he, h'⟩
  · exact .inl (h.trans h'.held)
  · exact .inr ⟨he, h'.of_prefix h.history⟩

theorem World.Held.cancelled {w v : World Memory} (h : w.Held v) (cancelled : Bool) :
    w.Held { v with cancelled } :=
  ⟨h.history, h.mailbox⟩

/-- Locks do not count. -/
theorem World.Held.locks {w v : World Memory} (h : w.Held v) (locks : Locks) :
    w.Held { v with locks } :=
  ⟨h.history, h.mailbox⟩

theorem World.Spared.locks {w v : World Memory} {e : SyncError} (h : w.Spared e v) (locks : Locks) :
    w.Spared e { v with locks } := by
  rcases h with h | ⟨he, h⟩
  · exact .inl (h.locks locks)
  · exact .inr ⟨he, h.history, h.mailbox, h.order⟩

namespace Hierarchy

/-- What a reply to a round comes to. -/
def outcome (fresh : Bool) (result : Except TransportError Reply) :
    Except Failure (Round Batch) := do
  let root ← Exchange.required "FolderSync" (← Exchange.documentOf "FolderSync" result)
  roundOf fresh (← Exchange.ofDocument (Response.ofDocument root))

/-- The request of a round. -/
def wire (settings : ProtocolSettings) (key : Option String) : Request :=
  Exchange.request "FolderSync" (request (SyncKey.sent key))
    (if SyncKey.isInitial key then settings.initialTimeout else settings.commandTimeout)

theorem collect_succ (sess : Session) (left : Nat) (p : Progress) :
    collect sess (left + 1) p = (do
      Operation.checkCancelled
      match p.next sess.mayProvision (← sess.turn (exchange sess.settings · p.key)) with
      | .again p => collect sess left p
      | .finish p => pure (p, left)
      | .provision p =>
        sess.provision
        collect sess left p
      | .fail e => throw e) := by
  rw [Session.turn_bind]
  rfl

namespace Progress

/-- Progress once a round was accepted. -/
def take (p : Progress) (round : Round Batch) : Progress :=
  { p with key := some round.key, batch := p.batch.extend round.batch }

/-- What a round can lead to. -/
inductive Leads (p : Progress) (mayProvision : Bool) : Except Failure (Round Batch) → Next → Prop
  | more {round : Round Batch} (more : round.more = true) :
      Leads p mayProvision (.ok round) (.again (p.take round))
  | done {round : Round Batch} (more : round.more = false) :
      Leads p mayProvision (.ok round) (.finish (p.take round))
  | restart {f : Failure} (verdict : f.verdict = .keyInvalid) (first : p.restarted = false) :
      Leads p mayProvision (.error f)
        (.again { p with key := none, batch := .none, restarted := true })
  | provision {f : Failure} (verdict : f.verdict = .provisioningRequired)
      (first : p.provisioned = false) (may : mayProvision = true) :
      Leads p mayProvision (.error f) (.provision { p with provisioned := true })
  | fail (f : Failure) : Leads p mayProvision (.error f) (.fail (f.toError subject))

theorem leads_next (p : Progress) (mayProvision : Bool) (o : Except Failure (Round Batch)) :
    p.Leads mayProvision o (p.next mayProvision o) := by
  cases o with
  | ok round =>
    simp only [next]
    split_ifs with hm
    · exact .more hm
    · exact .done (Bool.eq_false_iff.mpr hm)
  | error f =>
    simp only [next]
    split_ifs with hk hp
    · exact .restart hk.1 (Bool.eq_false_iff.mpr hk.2)
    · exact .provision hp.1 (Bool.eq_false_iff.mpr hp.2.1) hp.2.2
    · exact .fail f

end Progress

/-- What a pass does next. The handshake leaves its progress as it is. -/
def Next.step (sess : Session) : Next → Step Progress
  | .again p => .again p
  | .finish p => .finish p
  | .provision p => .after sess.provision p
  | .fail e => .fail e

def rounds (sess : Session) : Rounds Progress where
  request p := wire sess.settings p.key
  step p r := (p.next sess.mayProvision (outcome (SyncKey.isInitial p.key) r)).step sess
  limit := roundLimit sess.maxRounds

theorem rounds_step (sess : Session) (p : Progress) (r : Except TransportError Reply) :
    (rounds sess).step p r =
      (p.next sess.mayProvision (outcome (SyncKey.isInitial p.key) r)).step sess := rfl

theorem collect_eq (sess : Session) (left : Nat) (p : Progress) :
    collect sess left p = (rounds sess).collect sess left p := by
  induction left generalizing p with
  | zero => rfl
  | succ left ih =>
    rw [collect_succ, Rounds.collect]
    refine congrArg (Operation.checkCancelled >>= ·) (funext fun _ => ?_)
    refine Rounds.turn_bind_eq (g := outcome (SyncKey.isInitial p.key)) (fun account => rfl) ?_
    intro r
    rw [rounds_step]
    cases p.next sess.mayProvision (outcome (SyncKey.isInitial p.key) r) with
    | again q => exact ih q
    | finish q => rfl
    | provision q => simp only [Next.step, Step.after, bind_assoc, pure_bind, ih]
    | fail e => rfl

/-- The world once what came in is written, and the key after it. -/
def landed (stored : Option String) (p : Progress) (w : World Memory) : World Memory :=
  if p.key ≠ stored then
    (w.written (p.batch.difference w.mailbox).calls).written [.setExtra hierarchyKeyMark p.key]
  else w.written (p.batch.difference w.mailbox).calls

theorem landed_eq (stored : Option String) (p : Progress) (w : World Memory) :
    (landed stored p w).mailbox.folders =
        (w.mailbox.after (p.batch.difference w.mailbox).calls).folders ∧
      w.history <+: (landed stored p w).history ∧
      (landed stored p w).exchanges = w.exchanges := by
  unfold landed
  split_ifs
  · refine ⟨rfl, ?_, ?_⟩
    · exact (List.prefix_append ..).trans (List.prefix_append ..)
    · rw [World.exchanges_written, World.exchanges_written]
  · exact ⟨rfl, List.prefix_append .., World.exchanges_written ..⟩

/-- A pass is its rounds, and then the writing of what came in, which never fails. -/
theorem ensures_pass_of_collect {sess : Session} {w : World Memory} {Q : World Memory → Prop}
    {E : SyncError → World Memory → Prop} (hheld : E (.syncInProgress Locks.hierarchy) w)
    (hcollect : ∀ locks,
      Ensures ((rounds sess).collect sess sess.maxRounds
        (.start w.mailbox.extras[hierarchyKeyMark]?)) s { w with locks }
        (fun r v => ∀ c locks,
          Q { landed w.mailbox.extras[hierarchyKeyMark]? r.1 { v with cancelled := c } with
            locks } ∧
            E .cancelled { v with cancelled := c, locks := locks })
        fun e v => ∀ locks, E e { v with locks }) :
    Ensures (pass sess) s w (fun _ v => Q v) E := by
  refine .withLock hheld fun locks _ => ?_
  refine .bind_ok Mailbox.runIn_hierarchyKey ?_
  rw [collect_eq]
  refine ((hcollect locks).mono (fun _ _ h => h) fun _ _ h => h _).bind fun ⟨p, left⟩ v hv => ?_
  refine .bind (R := fun _ u => ∃ c, u = { v with cancelled := c }) (.checkCancelled
    (fun c => ⟨c, rfl⟩) fun c => (hv c _).2) ?_
  rintro _ _ ⟨c, rfl⟩
  have hQ := (hv c (v.locks.release Locks.hierarchy)).1
  refine .bind_ok (runIn_write p.batch s _) ?_
  unfold landed at hQ
  split_ifs with hk
  · rw [if_pos hk] at hQ
    exact .bind_ok (Mailbox.runIn_setHierarchyKey p.key) (.pure hQ)
  · rw [if_neg hk] at hQ
    exact .pure hQ

/-- The folders of a mailbox once a batch was written, whatever its policy key was by then. -/
structure Rebuilt (w : World Memory) (batch : Batch) (v : World Memory) : Prop where
  history : w.history <+: v.history
  folders : ∃ m : Memory, w.mailbox.SameButPolicy m ∧
    v.mailbox.folders = (m.after (batch.difference m).calls).folders

theorem Rebuilt.contents {w v : World Memory} {batch : Batch} (h : Rebuilt w batch v)
    {folder : String} {k} (hk : w.mailbox.contents folder = some k)
    (hf : folder ∈ v.mailbox.folders) : v.mailbox.contents folder = some k := by
  obtain ⟨m, hm, hv⟩ := h.folders
  have hk : m.contents folder = some k := by rw [hm.contents, hk]
  rw [hv] at hf
  have he := Difference.contents_after ((Records.keyed_of m).replay batch) hk hf
  rw [Memory.contents, hv]
  exact he

/-- Rounds leave the mailbox alone. -/
theorem carries_held (hs : s.Solitary) (sess : Session) (w : World Memory) :
    (rounds sess).Carries s sess (fun _ v => w.Held v) (fun _ v => w.Held v) w.Spared := by
  have hreplied {p : Progress} {v : World Memory} (hv : w.Held v) (r c) :
      w.Held ((rounds sess).replied sess p v r c) := hv.trans (World.Still.exchanged ..).held
  refine { look := fun c h => h.cancelled c, stop := .inl, limit := .inl
           drop := fun r c h => .inl (hreplied h r c), step := fun {p v} r c h => ?_ }
  have hv := hreplied (p := p) h r c
  rw [rounds_step]
  cases p.next sess.mayProvision (outcome (SyncKey.isInitial p.key) r) with
  | again q => exact hv
  | finish q => exact hv
  | provision q =>
    refine Step.ensures_after ((sess.ensures_provision hs _).mono ?_ fun _ u hu => hu.spared hv)
    exact fun _ u hu => hv.trans hu
  | fail e => exact .inl hv

theorem ensures_pass (hs : s.Solitary) (sess : Session) (w : World Memory) :
    Ensures (pass sess) s w (fun _ v => ∃ batch, Rebuilt w batch v) w.Spared := by
  refine ensures_pass_of_collect (.inl (.refl w)) fun locks => ?_
  have hI : w.Held { w with locks } := (World.Held.refl w).locks locks
  refine ((carries_held hs sess w).ensures hs sess.maxRounds hI).mono (fun ⟨p, left⟩ v hv c l => ?_)
    fun _ _ h l => h.locks l
  obtain ⟨hfolders, hhistory, -⟩ :=
    landed_eq w.mailbox.extras[hierarchyKeyMark]? p { v with cancelled := c }
  refine ⟨⟨p.batch, hv.history.trans hhistory, v.mailbox, hv.mailbox, hfolders⟩, ?_⟩
  exact .inl ((hv.cancelled c).locks l)

section
variable {A : Effect → Prop}

theorem only_write (hask : ∀ call, A (.ask call)) (batch : Batch) :
    Operation.Only A (write batch) := by
  refine (Operation.Only.ask (hask _)).bind fun _ => ?_
  exact Operation.Only.bind (.forM fun _ _ => .discard (.ask (hask _))) fun _ => .pure _

/-- Rounds post nothing but their own command and the handshake's. -/
theorem only_collect
    (hpost : ∀ account q, q.command = "FolderSync" ∨ q.command = "Provision" → A (.post account q))
    (hask : ∀ call, A (.ask call)) (hlook : A .checkCancelled) (sess : Session) (left : Nat)
    (p : Progress) : Operation.Only A (collect sess left p) := by
  induction left generalizing p with
  | zero => exact (Operation.Only.checkCancelled hlook).bind fun _ => .throw _
  | succ left ih =>
    rw [collect_succ]
    have hex (account : Account) : (exchange sess.settings account p.key).Only A :=
      (Exchange.only_post (hpost _ _ (.inl rfl))).bind fun _ => trivial
    refine (Operation.Only.checkCancelled hlook).bind fun _ => ?_
    refine (sess.only_turn (fun _ => hask _) hlook hex).bind fun o => ?_
    cases p.next sess.mayProvision o with
    | again p => exact ih p
    | finish p => exact .pure _
    | provision p =>
      exact (sess.only_provision (fun a q hq => hpost a q (.inr hq)) hask).bind fun _ => ih p
    | fail e => exact .throw e

theorem only_pass
    (hpost : ∀ account q, q.command = "FolderSync" ∨ q.command = "Provision" → A (.post account q))
    (hask : ∀ call, A (.ask call)) (hlook : A .checkCancelled) (htake : ∀ lock, A (.acquire lock))
    (hrelease : ∀ lock, A (.release lock)) (sess : Session) : Operation.Only A (pass sess) := by
  refine .withLock (htake _) (hrelease _) ((Operation.Only.ask (hask _)).bind fun stored => ?_)
  refine (only_collect hpost hask hlook sess _ _).bind fun ⟨p, left⟩ => ?_
  refine (Operation.Only.checkCancelled hlook).bind fun _ => ?_
  refine (only_write hask p.batch).bind fun difference => ?_
  split_ifs
  · exact (Operation.Only.ask (hask _)).bind fun _ => .pure _
  · exact .pure _

end

/-- A pass over the hierarchy never asks for the messages of a folder. -/
theorem avoids_pass (sess : Session) : Operation.Only (Effect.Avoids "Sync") (pass sess) := by
  refine only_pass ?_ (fun _ => trivial) trivial (fun _ => trivial) (fun _ => trivial) sess
  rintro account q (hq | hq)
  · exact fun h => absurd (hq.symm.trans h) (by decide)
  · exact fun h => absurd (hq.symm.trans h) (by decide)

theorem quiet_pass (hs : s.Solitary) (sess : Session) (w : World Memory) :
    w.Quiet "Sync" ((pass sess).runIn s w).2 :=
  (avoids_pass sess).quiet hs w

end Hierarchy

end MailSync
