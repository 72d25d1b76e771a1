import MailSync.Collection.Sync
import MailSync.Proofs.Collection.Pass
import MailSync.Proofs.Collection.Writing
import MailSync.Proofs.Mailbox.Beside

/-!
# What a pass over a collection can ask for

A pass posts requests, asks the mailbox and looks whether the user has cancelled; to write what it
collected is to ask the mailbox about its folder. Only who runs a pass tells the listener of
anything.
-/
namespace MailSync.Collection
open Operation (Only)

variable {A : Effect → Prop}

/-- What follows the pass of a fetch. -/
def keep (folder : String) (ids : List String) (c : Collected) : Operation Report := do
  discard (c.batch.write folder .whole)
  let report ← settle folder c.batch ids ⟨c.batch.completed, c.batch.rejected .whole, []⟩
  commit folder c
  pure report

theorem fetch_eq (sess : Session) (folder : String) (ids : List String) :
    fetch sess folder ids = pass sess folder (.fetch ids) >>= keep folder ids :=
  rfl

theorem only_announce (htell : ∀ notice, A (.tell notice)) (folder : String) (ms : List Message) :
    Only A (announce folder ms) :=
  .forM fun _ _ => .ofProgram ⟨htell _, fun _ => trivial⟩

section
variable {folder : String} (hask : ∀ call, call.Within folder → A (.ask call))
include hask

theorem only_requireFolder : Only A (requireFolder folder) :=
  (Only.ask (hask (.folder folder) trivial)).bind fun found => by cases found <;> trivial

theorem only_writeAll (bodies : Bodies) (ds : List Delta) :
    Only A (writeAll folder bodies ds) := by
  induction ds with
  | nil => exact .pure 0
  | cons d ds ih =>
    have hcall : (d.call folder bodies).Within folder := by
      cases d with
      | add m =>
        simp only [Delta.call]
        split_ifs <;> exact rfl
      | _ => exact rfl
    obtain ⟨changed, hd⟩ := d.write_eq folder bodies
    rw [writeAll, hd, map_eq_pure_bind]
    exact ((Only.ask (hask _ hcall)).bind fun _ => .pure _).bind fun _ => ih.bind fun _ => .pure _

theorem Batch.only_write (bodies : Bodies) (b : Batch) : Only A (b.write folder bodies) := by
  unfold write
  split_ifs
  · refine Only.bind (.ask (hask (.removeAllMessages folder) rfl)) fun _ => ?_
    exact only_writeAll hask bodies _
  · exact only_writeAll hask bodies _

theorem only_commit (c : Collected) : Only A (commit folder c) := by
  unfold commit
  split_ifs
  · exact .ask (hask _ ⟨rfl, rfl⟩)
  · exact .pure ()

theorem only_settle (b : Batch) (ids : List String) (r : Report) :
    Only A (settle folder b ids r) := by
  induction ids generalizing r with
  | nil => exact .pure r
  | cons id ids ih =>
    unfold settle
    split_ifs
    · exact ih r
    · split
      · split_ifs
        · exact (Only.ask (hask (.destroyMessages folder [id]) rfl)).bind fun _ => ih _
        · exact ih _
      · exact ih _

theorem only_keep (ids : List String) (c : Collected) : Only A (keep folder ids c) := by
  refine (c.batch.only_write hask .whole).discard.bind fun _ => ?_
  refine (only_settle hask c.batch ids _).bind fun report => ?_
  exact (only_commit hask c).bind fun _ => .pure report

end

/-- What runs in a pass: the commands of its errand, or none. -/
def Runs (errand : Errand) (commands : List Command) : Prop :=
  commands = [] ∨ commands = errand.commands

theorem Progress.runs_request {p : Progress} {errand : Errand} (hp : Runs errand p.pending)
    (folder : String) (window : Window) :
    Runs errand (p.request errand folder window).commands := by
  simp only [request]
  split_ifs
  · exact .inl rfl
  · exact hp

theorem Progress.Takes.runs {p q : Progress} {errand : Errand} {round : Round Batch}
    (h : p.Takes round q) (hp : Runs errand p.pending) : Runs errand q.pending := by
  rw [h.pending]
  split_ifs
  · exact hp
  · exact .inl rfl

section
variable {sess : Session} {folder : String} {errand : Errand}
  (hbeside : ∀ account q, q.command = "FolderSync" ∨ q.command = "Provision" →
    A (.post account q))
  (hpost : ∀ account r key, Runs errand r.commands → A (.post account (wire sess.settings r key)))
  (hask : ∀ call, A (.ask call)) (hlook : A .checkCancelled) (htake : ∀ lock, A (.acquire lock))
  (hrelease : ∀ lock, A (.release lock))
include hbeside hpost hask hlook htake hrelease

theorem only_collect (window : Window) (left : Nat) {p : Progress} (hp : Runs errand p.pending) :
    Only A (collect sess folder errand window left p) := by
  induction left generalizing p with
  | zero => exact (Only.checkCancelled hlook).bind fun _ => .throw _
  | succ left ih =>
    rw [collect_succ]
    have hex (account : Account) :
        (exchange sess.settings account (p.request errand folder window) p.key).Only A :=
      (Exchange.only_post (hpost account _ p.key (p.runs_request hp folder window))).bind
        fun _ => trivial
    refine (Only.checkCancelled hlook).bind fun _ => ?_
    refine (sess.only_turn (fun _ => hask _) hlook hex).bind fun o => ?_
    have hleads := p.leads_next errand folder sess.mayProvision o
    generalize p.next errand folder sess.mayProvision o = next at hleads ⊢
    cases hleads with
    | more _ takes => exact ih (takes.runs hp)
    | done => exact .pure _
    | restart => exact ih (.inr rfl)
    | refresh =>
      have hpass := Hierarchy.only_pass hbeside hask hlook htake hrelease sess
      refine hpass.discard.bind fun _ => (only_requireFolder fun _ _ => hask _).bind fun _ => ?_
      exact (Only.ask (hask _)).bind fun _ => ih (.inr rfl)
    | provision =>
      have hprovision := sess.only_provision (fun a q hq => hbeside a q (.inr hq)) hask
      exact hprovision.bind fun _ => ih hp
    | stalled | fail => exact .throw _

/-- A pass posts the commands of its errand, or none, and what goes beside them. -/
theorem only_pass : Only A (pass sess folder errand) := by
  have hfolder : Only A (requireFolder folder) := only_requireFolder fun _ _ => hask _
  refine hfolder.bind fun _ => Only.bind (hfolder.bind fun _ => ?_) fun window => ?_
  · exact (Only.bind (.ask (hask _)) fun _ => .pure _).bind fun _ => .pure _
  · refine (Only.ask (hask _)).bind fun stored => ?_
    have hstart : Runs errand (Progress.start errand stored).pending := .inr rfl
    refine (only_collect hbeside hpost hask hlook htake hrelease _ _ hstart).bind fun _ => ?_
    exact (Only.checkCancelled hlook).bind fun _ => .pure _

end
end MailSync.Collection
