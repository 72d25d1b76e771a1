import MailSync.Proofs.Collection.Landing
import MailSync.Proofs.Collection.Pass
import MailSync.Proofs.Dialogue

/-!
# Where a pass stands

A pass can be told from its exchanges alone. Each reply that is accepted adds its changes, and its
key is the next one to send; a refused key and a changed hierarchy begin again with nothing. The
handshake and a pass over the hierarchy, which may come in between, ask nothing about the folder and
leave what it holds.
-/
namespace MailSync.Collection
open Mailbox (Call Memory keyMark)
open Operation (Ensures)

variable {s : Surroundings Memory} {sess : Session} {folder : String}

/-- The response in a reply, if it has a body. -/
def response? (folder : String) (result : Except TransportError Reply) : Option Response :=
  match Exchange.documentOf "Sync" result with
  | .ok (some root) => (Response.ofDocument root folder).toOption
  | _ => none

/-- The changes that a reply brings. -/
def changes (folder : String) (result : Except TransportError Reply) : List Delta :=
  ((response? folder result).map (·.deltas)).getD []

/-- The verdicts on the client's commands that a reply brings. -/
def responses (folder : String) (result : Except TransportError Reply) : List ItemResponse :=
  ((response? folder result).map (·.responses)).getD []

/-- Whether a reply says that the server has more. -/
def moreAvailable (folder : String) (result : Except TransportError Reply) : Bool :=
  ((response? folder result).map (·.moreAvailable)).getD false

/-- The key after a reply: its own, or the one that was sent if it has none. -/
def keyAfter (folder : String) (sent : Option String) (result : Except TransportError Reply) :
    String :=
  ((response? folder result).bind (·.key)).getD (SyncKey.sent sent)

theorem of_roundOf {sent : Option String} {r : Response} {round : Round Batch}
    (h : roundOf folder sent r = .ok round) :
    round.key = r.key.getD (SyncKey.sent sent) ∧
      round.batch = ⟨SyncKey.isInitial sent, r.deltas, r.responses⟩ ∧
      round.more = (r.moreAvailable || SyncKey.isInitial sent) := by
  simp only [roundOf] at h
  split_ifs at h
  cases hk : r.key with
  | none =>
    cases hi : SyncKey.isInitial sent with
    | true =>
      rw [hk, hi] at h
      cases h
    | false =>
      rw [hk, hi] at h
      obtain rfl := Except.ok.inj h
      exact ⟨rfl, rfl, rfl⟩
  | some key =>
    rw [hk] at h
    obtain rfl := Except.ok.inj h
    exact ⟨rfl, rfl, rfl⟩

/-- What an accepted round holds, in terms of its reply. -/
theorem of_outcome {sent : Option String} {result : Except TransportError Reply}
    {round : Round Batch} (h : outcome folder sent result = .ok round) :
    round.key = keyAfter folder sent result ∧
      round.batch = ⟨SyncKey.isInitial sent, changes folder result, responses folder result⟩ ∧
      round.more = (moreAvailable folder result || SyncKey.isInitial sent) := by
  unfold outcome at h
  unfold keyAfter changes responses moreAvailable response?
  cases hd : Exchange.documentOf "Sync" result with
  | error f =>
    rw [hd] at h
    cases h
  | ok document =>
    rw [hd] at h
    change roundOfDocument folder sent document = .ok round at h
    cases document with
    | none =>
      unfold roundOfDocument at h
      split_ifs at h with hi
      obtain rfl := Except.ok.inj h
      rw [Bool.eq_false_iff.mpr hi]
      exact ⟨rfl, rfl, rfl⟩
    | some root =>
      change (Exchange.ofDocument (Response.ofDocument root folder) >>= _) = .ok round at h
      cases hr : Response.ofDocument root folder with
      | error e =>
        rw [hr] at h
        cases h
      | ok r =>
        rw [hr] at h
        simp only [hr]
        exact of_roundOf h

/-- What the accepted replies bring, as one batch. -/
def batchOf (folder : String) (st : Standing) : Batch :=
  ⟨st.isFresh, st.gathered (changes folder), st.gathered (responses folder)⟩

/-- The dialogue of a pass over a folder. A refused key has it begin afresh, and a change in the
hierarchy from the stored key. -/
def dialogue (folder : String) (stored : Option String) : Dialogue Batch where
  command := "Sync"
  stored
  outcome := outcome folder
  restart v :=
    if v = .keyInvalid then some none
    else if v = .hierarchyChanged then some stored
    else none
  batch := batchOf folder
  extend := Batch.extend
  batch_accept ho := by
    rw [batchOf, Standing.isFresh_accept, Standing.gathered_accept, Standing.gathered_accept,
      (of_outcome ho).2.1]
    rfl

/-- The last accepted reply decides the key. -/
def Keyed (folder : String) (st : Standing) : Prop :=
  ∀ a, st.accepted.getLast? = some a → st.key = some (keyAfter folder a.1 a.2)

theorem keyed_along (folder : String) (stored : Option String) (xs : List Exchanged) :
    Keyed folder ((dialogue folder stored).along xs) := by
  intro a ha
  obtain ⟨round, ho, hkey⟩ := Dialogue.exists_of_getLast? ha
  rw [hkey, (of_outcome ho).1]

/-- A request about a folder that asks with the key of a standing. -/
def Follows (settings : ProtocolSettings) (folder : String) (st : Standing)
    (q : MailSync.Request) : Prop :=
  ∃ r : Request, r.collection = folder ∧ q = wire settings r st.key

/-- The standing of a folder after the exchanges between two worlds. -/
def standing (folder : String) (w v : World Memory) : Standing :=
  (dialogue folder (w.mailbox.key? folder)).along (w.since v)

theorem standing_self (folder : String) (w : World Memory) :
    standing folder w w = .start (w.mailbox.key? folder) := by
  rw [standing, World.since_self]
  rfl

theorem keyed_standing (folder : String) (w v : World Memory) :
    Keyed folder (standing folder w v) :=
  keyed_along folder _ _

/-- The progress that a round has come to, where the pass goes on or ends. -/
def Next.progress? (errand : Errand) (stored : Option String) : Next → Option Progress
  | .again q | .finish q | .provision q => some q
  | .refresh q => some (q.restart errand stored)
  | .fail _ => none

/-- What the key and the batch of a pass become is what the dialogue makes of them. -/
theorem Progress.Leads.follows {p q : Progress} {errand : Errand} {mayProvision : Bool}
    {o : Except Failure (Round Batch)} {stored : Option String} {next : Next}
    (h : p.Leads errand folder mayProvision o next) (hq : next.progress? errand stored = some q) :
    q.stored = p.stored ∧ (dialogue folder stored).Leads p.key p.batch o q.key q.batch := by
  cases h with
  | more _ takes | done _ takes =>
    obtain rfl := Option.some.inj hq
    refine ⟨takes.stored, ?_⟩
    rw [takes.key, takes.batch]
    exact .accept _
  | restart verdict =>
    obtain rfl := Option.some.inj hq
    exact ⟨rfl, .restart (if_pos verdict)⟩
  | refresh verdict =>
    obtain rfl := Option.some.inj hq
    exact ⟨rfl, .restart (by rw [verdict]; rfl)⟩
  | provision verdict =>
    obtain rfl := Option.some.inj hq
    exact ⟨rfl, .stay (by rw [verdict]; rfl)⟩
  | stalled | fail => cases hq

/-- The progress of a pass is where its exchanges have left the folder, which still holds what it
held when the pass began. -/
structure Tracks (sess : Session) (folder : String) (w : World Memory) (p : Progress)
    (v : World Memory) : Prop
    extends Dialogue.Tracks (dialogue folder (w.mailbox.key? folder))
      (Follows sess.settings folder) w p.key p.batch v where
  contents : v.mailbox.contents folder = w.mailbox.contents folder
  stored : p.stored = w.mailbox.key? folder

namespace Tracks
variable {w v u : World Memory} {p q : Progress}

/-- Where a pass begins. -/
theorem start (sess : Session) (folder : String) (errand : Errand) (w : World Memory) :
    Tracks sess folder w (.start errand (w.mailbox.key? folder)) w where
  toTracks := .start (dialogue folder _) _ w
  contents := rfl
  stored := rfl

/-- Whatever runs in between, if it asks nothing about the folder and keeps what it holds. -/
theorem quiet (h : Tracks sess folder w p v) (hq : v.Quiet "Sync" u)
    (hc : u.mailbox.contents folder = v.mailbox.contents folder) : Tracks sess folder w p u where
  toTracks := h.toTracks.quiet hq
  contents := hc.trans h.contents
  stored := h.stored

/-- Neither the locks nor a cancellation are tracked. -/
theorem of_eq (h : Tracks sess folder w p v) {w' v' : World Memory}
    (hwm : w'.mailbox = w.mailbox) (hwh : w'.history = w.history) (hvm : v'.mailbox = v.mailbox)
    (hvh : v'.history = v.history) : Tracks sess folder w' p v' where
  toTracks := hwm ▸ h.toTracks.of_eq hwh hvh
  contents := by rw [hvm, hwm, h.contents]
  stored := hwm ▸ h.stored

theorem batchOf (h : Tracks sess folder w p v) : p.batch = batchOf folder (standing folder w v) :=
  h.batch

theorem mem_folders (h : Tracks sess folder w p v) (hf : folder ∈ w.mailbox.folders) :
    folder ∈ v.mailbox.folders := by
  obtain ⟨k, hk⟩ := Memory.contents_of_mem hf
  exact Memory.mem_of_contents (h.contents.trans hk)

theorem replied (h : Tracks sess folder w p v) {errand : Errand} {window : Window}
    {mayProvision : Bool} {r : Except TransportError Reply} {next : Next}
    (hleads : p.Leads errand folder mayProvision (outcome folder p.key r) next)
    (hq : next.progress? errand (w.mailbox.key? folder) = some q) (c : Bool) :
    Tracks sess folder w q ((rounds sess folder errand window).replied sess p v r c) where
  toTracks := h.toTracks.exchanged rfl
    ⟨p.request errand folder window, rfl, congrArg (wire sess.settings _) h.key⟩
    (hleads.follows hq).2 _ c
  contents := h.contents
  stored := (hleads.follows hq).1.trans h.stored

end Tracks

section
variable {errand : Errand} {window : Window} {w v : World Memory}

/-- A pass over the hierarchy in between: if the folder is still there, its key is what it was. -/
theorem ensures_refresh (hs : s.Solitary) {q : Progress}
    (hq : Tracks sess folder w (q.restart errand (w.mailbox.key? folder)) v) {k}
    (hk : w.mailbox.contents folder = some k) :
    Ensures (Hierarchy.pass sess) s v
      (fun _ u => Ensures (requireFolder folder) s u
        (fun _ u => Tracks sess folder w { q.restart errand (u.mailbox.key? folder) with
          stored := u.mailbox.key? folder } u) fun _ _ => True) fun _ _ => True := by
  have hpass := (Hierarchy.ensures_pass hs sess v).and_always (Hierarchy.quiet_pass hs sess v)
  refine hpass.mono (fun _ u ⟨⟨batch, hb⟩, hquiet⟩ => ?_) fun _ _ _ => trivial
  refine .requireFolder (fun hf => ?_) fun _ => trivial
  have hv : v.mailbox.contents folder = some k := hq.contents.trans hk
  have hu := hb.contents hv hf
  have hkey : u.mailbox.key? folder = w.mailbox.key? folder := by
    rw [Memory.key?_eq, hu, Memory.key?_eq, hk]
  have ht := hq.quiet hquiet (hu.trans hv.symm)
  rw [hkey]
  exact ⟨ht.toTracks, ht.contents, rfl⟩

theorem carries_tracks (hs : s.Solitary) (w : World Memory) {k}
    (hk : w.mailbox.contents folder = some k) :
    (rounds sess folder errand window).Carries s sess (Tracks sess folder w)
      (fun p v => Tracks sess folder w p v ∧ (standing folder w v).accepted ≠ [])
      fun _ _ => True := by
  refine { look := fun c h => h.of_eq rfl rfl rfl rfl, stop := fun _ => trivial
           limit := fun _ => trivial, drop := fun _ _ _ => trivial
           step := fun {p v} r c h => ?_ }
  have hleads := p.leads_next errand folder sess.mayProvision (outcome folder p.key r)
  rw [rounds_step]
  generalize p.next errand folder sess.mayProvision (outcome folder p.key r) = next at hleads
  cases next with
  | again q => exact h.replied hleads rfl c
  | finish q =>
    refine ⟨h.replied hleads rfl c, ?_⟩
    generalize ho : outcome folder p.key r = o at hleads
    cases hleads
    exact h.toTracks.accepted_ne_nil rfl ho _ c
  | refresh q => exact ensures_refresh_step (ensures_refresh hs (h.replied hleads rfl c) hk)
  | provision q =>
    have hprovision := (sess.ensures_provision hs _).and_always (sess.quiet_provision hs "Sync"
      (by decide) ((rounds sess folder errand window).replied sess p v r c))
    refine Step.ensures_after (hprovision.mono (fun _ u hu => ?_) fun _ _ _ => trivial)
    exact (h.replied hleads rfl c).quiet hu.2 (hu.1.mailbox.contents folder)
  | fail e => trivial

end

end MailSync.Collection
