import MailSync.Collection.Orders
import MailSync.Proofs.Collection.Landing
import MailSync.Proofs.Collection.Pass

/-!
# A failed pass leaves the mailbox alone

Nothing is written while the rounds of a pass come in, but by the policy handshake and by the pass
over the hierarchy that the server may demand. Once the last round is in, the folder is there and
nothing can fail any more. So where an operation fails, for whatever replies and whenever the user
cancels, the mailbox is what it was, but for the policy key, a wipe on order, and what a nested pass
over the hierarchy did that itself ended well.
-/
namespace MailSync
open Mailbox (Call Memory)
open Operation (Ensures)

variable {s : Surroundings Memory} {sess : Session}

/-- The mailbox is as it was, but for the policy key and for what a pass over the hierarchy did that
ended well. -/
inductive World.Kept (s : Surroundings Memory) (sess : Session) (w : World Memory) :
    World Memory → Prop
  | held {v : World Memory} (h : w.Held v) : Kept s sess w v
  | refreshed {w₁ w₂ v : World Memory} {stats : Hierarchy.Stats} (before : w.Held w₁)
      (pass : (Hierarchy.pass sess).runIn s w₁ = (.ok stats, w₂)) (after : w₂.Held v) :
      Kept s sess w v

/-- How an operation on a folder fails. -/
def World.Failed (s : Surroundings Memory) (sess : Session) (w : World Memory) (e : SyncError)
    (v : World Memory) : Prop :=
  w.Kept s sess v ∨ e = .accessDenied ∧ w.Wiped v

namespace World
variable {w v u : World Memory}

theorem Held.mem_folders {folder : String} (h : w.Held v) (hf : folder ∈ w.mailbox.folders) :
    folder ∈ v.mailbox.folders := by
  rw [h.mailbox.folders]
  exact hf

theorem Kept.trans (h : w.Kept s sess v) (h' : v.Held u) : w.Kept s sess u := by
  cases h with
  | held h => exact .held (h.trans h')
  | refreshed before pass after => exact .refreshed before pass (after.trans h')

theorem Kept.history (hs : s.Solitary) (h : w.Kept s sess v) : w.history <+: v.history := by
  cases h with
  | held h => exact h.history
  | @refreshed w₁ w₂ _ _ before pass after =>
    have hp := Operation.history_prefix_runIn hs (Hierarchy.pass sess) w₁
    rw [pass] at hp
    exact before.history.trans (hp.trans after.history)

theorem Refused.failed (hs : s.Solitary) {e : SyncError} (h : w.Kept s sess v)
    (h' : v.Refused e u) : w.Failed s sess e u := by
  rcases h' with h' | ⟨he, h'⟩
  · exact .inl (h.trans h'.held)
  · exact .inr ⟨he, h'.of_prefix (h.history hs)⟩

theorem Spared.failed {e : SyncError} (h : w.Held v) (h' : v.Spared e u) : w.Failed s sess e u := by
  rcases h' with h' | ⟨he, h'⟩
  · exact .inl (.held (h.trans h'))
  · exact .inr ⟨he, h'.of_prefix h.history⟩

theorem Failed.locks {e : SyncError} {l l' : Locks}
    (h : ({ w with locks := l } : World Memory).Failed s sess e v) :
    w.Failed s sess e { v with locks := l' } := by
  rcases h with (h | ⟨before, pass, after⟩) | ⟨he, h⟩
  · exact .inl (.held ⟨h.history, h.mailbox⟩)
  · exact .inl (.refreshed ⟨before.history, before.mailbox⟩ pass ⟨after.history, after.mailbox⟩)
  · exact .inr ⟨he, h.history, h.mailbox, h.order⟩

end World

namespace Collection
variable {folder : String} {errand : Errand}

/-- Between two rounds the mailbox is kept, and as it was while no pass over the hierarchy ran. -/
structure Intact (s : Surroundings Memory) (sess : Session) (folder : String) (w : World Memory)
    (p : Progress) (v : World Memory) : Prop where
  held : p.refreshed = false → w.Held v
  kept : w.Kept s sess v
  folder : folder ∈ v.mailbox.folders

theorem Intact.move {w v u : World Memory} {p q : Progress} (h : Intact s sess folder w p v)
    (hq : q.refreshed = p.refreshed) (hu : v.Held u) : Intact s sess folder w q u where
  held hr := (h.held (hq ▸ hr)).trans hu
  kept := h.kept.trans hu
  folder := hu.mem_folders h.folder

theorem carries_intact (hs : s.Solitary) (window : Window) (w : World Memory) :
    (rounds sess folder errand window).Carries s sess (Intact s sess folder w)
      (Intact s sess folder w) (w.Failed s sess) := by
  have hreplied {p : Progress} {v : World Memory} (r c) :
      v.Held ((rounds sess folder errand window).replied sess p v r c) :=
    (World.Still.exchanged ..).held
  refine { look := fun c h => h.move rfl ((World.Held.refl _).cancelled c)
           stop := fun h => .inl h.kept, limit := fun h => .inl h.kept
           drop := fun r c h => .inl (h.kept.trans (hreplied r c)), step := fun {p v} r c h => ?_ }
  have hv := hreplied (p := p) (v := v) r c
  have hleads := p.leads_next errand folder sess.mayProvision (outcome folder p.key r)
  rw [rounds_step]
  generalize outcome folder p.key r = o at hleads ⊢
  generalize p.next errand folder sess.mayProvision o = next at hleads ⊢
  cases hleads with
  | more _ takes | done _ takes => exact h.move takes.refreshed hv
  | restart _ _ => exact h.move rfl hv
  | refresh _ first =>
    have hbefore := (h.held first).trans hv
    have hfail := Hierarchy.ensures_pass hs sess
      ((rounds sess folder errand window).replied sess p v r c)
    refine ensures_refresh_step (.of_run fun result u hr => ?_)
    cases result with
    | error e => exact (hfail.error hr).failed hbefore
    | ok stats =>
      have hk : w.Kept s sess u := .refreshed hbefore hr (.refl u)
      exact .requireFolder (fun hf => ⟨fun ht => (nomatch ht), hk, hf⟩) fun _ => .inl hk
  | provision _ _ _ =>
    have hq := h.move (q := { p with provisioned := true }) rfl hv
    refine Step.ensures_after ((sess.ensures_provision hs _).mono ?_ fun e u hu => ?_)
    · exact fun _ u hu => hq.move rfl hu
    · exact hu.failed hs hq.kept
  | stalled | fail => exact .inl (h.kept.trans hv)

/-- A pass that ends well has a folder to write to. -/
theorem ensures_pass (hs : s.Solitary) (w : World Memory) :
    Ensures (pass sess folder errand) s w
      (fun _ v => w.Kept s sess v ∧ folder ∈ v.mailbox.folders) (w.Failed s sess) := by
  refine ensures_pass_of_collect (fun _ => .inl (.held (.refl w))) fun hf => ?_
  have hI : Intact s sess folder w (.start errand (w.mailbox.key? folder)) w :=
    ⟨fun _ => .refl w, .held (.refl w), hf⟩
  refine ((carries_intact hs _ w).ensures hs _ hI).mono (fun _ v hv c => ?_) fun _ _ h => h
  have hv := hv.move rfl ((World.Held.refl v).cancelled c)
  exact ⟨⟨hv.kept, hv.folder⟩, .inl hv.kept⟩

/-- Under the lock of its folder, an operation that can only fail with its pass. -/
theorem ensures_locked {α : Type} (hs : s.Solitary) {f : Collected → Operation α} (w : World Memory)
    (hf : ∀ c v, folder ∈ v.mailbox.folders → ∀ E, Ensures (f c) s v (fun _ _ => True) E) :
    Ensures (Operation.withLock (Locks.ofFolder folder) (pass sess folder errand >>= f)) s w
      (fun _ _ => True) (w.Failed s sess) := by
  refine .withLock (.inl (.held (.refl w))) fun locks _ => ?_
  refine Ensures.mono (R := fun _ _ => True) (F := World.Failed s sess { w with locks }) ?_
    (fun _ _ h => h) fun _ _ h => h.locks
  exact (ensures_pass hs _).bind fun c v hv => hf c v hv.2 _

theorem ensures_syncFolder (hs : s.Solitary) (w : World Memory) :
    Ensures (syncFolder sess folder) s w (fun _ _ => True) (w.Failed s sess) := by
  rw [syncFolder_eq]
  refine ensures_locked hs w fun c v hv E => ?_
  obtain ⟨n, hn⟩ := runIn_land (s := s) hv c
  exact .bind_ok hn (ensures_finish sess c n)

theorem ensures_deleteMessages (hs : s.Solitary) (ids : List String) (w : World Memory) :
    Ensures (deleteMessages sess folder ids) s w (fun _ _ => True) (w.Failed s sess) := by
  unfold deleteMessages
  split_ifs
  · exact .pure trivial
  refine ensures_locked hs w fun c v hv E => ?_
  refine .bind (.discard (Q := fun _ v => folder ∈ v.mailbox.folders)
    (ensures_write hv .any c.batch)) fun _ v hv => ?_
  refine .bind_ok (Operation.runIn_ask_write rfl s v) ?_
  exact .bind_ok (runIn_commit ((Memory.mem_next_of_edits (.destroy _)).mpr hv) c) (.pure trivial)

theorem ensures_changeFlag (hs : s.Solitary) (ids : List String) (flag : Flag) (state : Bool)
    (w : World Memory) :
    Ensures (changeFlag sess folder ids flag state) s w (fun _ _ => True) (w.Failed s sess) := by
  refine ensures_locked hs w fun c v hv E => ?_
  refine .bind (.discard (Q := fun _ v => folder ∈ v.mailbox.folders)
    (ensures_write hv .any c.batch)) fun _ v hv => ?_
  let calls := (ids.filter (tookFlag c.batch)).map fun id => Call.setFlag folder id flag state
  have hc : ∀ call ∈ calls, call.Edits folder := by
    intro call h
    obtain ⟨id, -, rfl⟩ := List.mem_map.mp h
    exact .flag id flag state
  have hflags := ensures_edits (s := s) (E := E) hc hv
  rw [List.forM_eq_forM, List.forM_map] at hflags
  exact hflags.bind fun _ v hv => .of_ok (runIn_commit hv c) trivial

theorem ensures_setFlag (hs : s.Solitary) (ids : List String) (flag : Flag) (state : Bool)
    (w : World Memory) :
    Ensures (setFlag sess folder ids flag state) s w (fun _ _ => True) (w.Failed s sess) := by
  unfold setFlag
  split
  · exact .throw (.inl (.held (.refl w)))
  · exact .discard (ensures_deleteMessages hs ids w)
  · exact .throw (.inl (.held (.refl w)))
  · exact .throw (.inl (.held (.refl w)))
  · split_ifs
    · exact .pure trivial
    · exact ensures_changeFlag hs ids _ state w

end Collection
open Collection

/-- Where a pass over the hierarchy, a sync, a deletion or a change of a flag fails, the mailbox is
what it was before. The policy key may differ; the mailbox may have been wiped on order; and an
operation on a folder may have run a pass over the hierarchy that ended well. -/
theorem failure_is_atomic {s : Surroundings Memory} (hs : s.Solitary) (sess : Session)
    (w w' : World Memory) (e : SyncError) :
    ((Hierarchy.pass sess).runIn s w = (.error e, w') → w.Spared e w') ∧
    ∀ folder, ((syncFolder sess folder).runIn s w = (.error e, w') → w.Failed s sess e w') ∧
      ∀ ids, ((deleteMessages sess folder ids).runIn s w = (.error e, w') → w.Failed s sess e w') ∧
        ∀ flag state, (setFlag sess folder ids flag state).runIn s w = (.error e, w') →
          w.Failed s sess e w' := by
  refine ⟨fun h => (Hierarchy.ensures_pass hs sess w).error h, fun folder => ⟨fun h => ?_, ?_⟩⟩
  · exact (ensures_syncFolder hs w).error h
  intro ids
  refine ⟨fun h => ?_, fun flag state h => ?_⟩
  · exact (ensures_deleteMessages hs ids w).error h
  · exact (ensures_setFlag hs ids flag state w).error h

/-- A server that falls silent in the middle of a sync. -/
def breakingOff : Script Memory where
  replies := [Response.reply ⟨1, some "1", false, [], []⟩ "5",
    Response.reply ⟨1, some "2", true, [.add (.blank "5:1")], []⟩ "5"]
  meanwhile := []
  id := ""

theorem failure_is_atomic_on_silence :
    breakingOff.surroundings.Solitary ∧
      ((syncFolder .sample "5").runIn breakingOff.surroundings .inbox).1 =
        .error (.network .connectionFailed "connection failed: no scripted reply for Sync") ∧
      World.inbox.Failed breakingOff.surroundings .sample
        (.network .connectionFailed "connection failed: no scripted reply for Sync")
        ((syncFolder .sample "5").runIn breakingOff.surroundings .inbox).2 := by
  have hs : breakingOff.surroundings.Solitary :=
    Script.solitary_surroundings fun entry h => nomatch h
  have he : ((syncFolder .sample "5").runIn breakingOff.surroundings .inbox).1 =
    .error (.network .connectionFailed "connection failed: no scripted reply for Sync") := rfl
  exact ⟨hs, he, ((failure_is_atomic hs .sample .inbox _ _).2 "5").1 (Prod.ext he rfl)⟩

end MailSync
