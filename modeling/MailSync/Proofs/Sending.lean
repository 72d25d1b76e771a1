import MailSync.Proofs.Hierarchy.Pass
import MailSync.Proofs.Notices

/-!
# What is sent, and when

A property of each request at the moment it is sent: of its account, and of the mailbox just then.
What posts nothing for which it could fail adds no such request. A pass over the hierarchy sends its
own requests with the account of the moment, and those of the handshake.
-/
namespace MailSync
open Mailbox (Memory)
open Operation (Ensures)

variable {σ α : Type}

/-- At this moment no request is sent, or one with the property. -/
def Moment.Sends (P : Account → Request → σ → Prop) (moment : Moment σ) : Prop :=
  ∀ account request, moment.event = .sent account request → P account request moment.mailbox

section
variable {P : Account → Request → Memory → Prop} {s : Surroundings Memory} {w : World Memory}

theorem Moment.sends_of_ne {event : Event} {m : Memory}
    (h : ∀ account request, event ≠ .sent account request) : Sends P ⟨event, m⟩ :=
  fun account request he => absurd he (h account request)

theorem World.Adds.sends_exchanged {account : Account} {request : Request}
    (h : P account request w.mailbox) (result : Except TransportError Reply) (cancelled : Bool) :
    w.Adds (Moment.Sends P) (w.exchanged account request result cancelled) := by
  refine .exchanged (fun a q he => ?_) (Moment.sends_of_ne nofun) cancelled
  obtain ⟨rfl, rfl⟩ := Event.sent.inj he
  exact h

theorem World.Adds.sends_written (w : World Memory) (calls : List Mailbox.Call) :
    w.Adds (Moment.Sends P) (w.written calls) :=
  .written (fun _ _ => Moment.sends_of_ne nofun) w calls

theorem World.Adds.sends_landed (stored : Option String) (p : Hierarchy.Progress)
    (w : World Memory) : w.Adds (Moment.Sends P) (Hierarchy.landed stored p w) := by
  unfold Hierarchy.landed
  split_ifs
  · exact (sends_written w _).trans (sends_written _ _)
  · exact sends_written w _

theorem Operation.Only.sends (hs : s.Solitary) {A : Effect → Prop}
    (hP : ∀ account request, A (.post account request) → ∀ m, P account request m)
    {op : Operation α} (h : Only A op) (w : World Memory) :
    w.Adds (Moment.Sends P) (op.runIn s w).2 := by
  refine h.adds hs (fun e he event hleaves m => ?_) w
  cases hleaves with
  | sent account request =>
    intro a q heq
    obtain ⟨rfl, rfl⟩ := Event.sent.inj heq
    exact hP account request he m
  | received | wrote | told => exact Moment.sends_of_ne nofun

section
variable (hhandshake : ∀ account request m, request.command = "Provision" → P account request m)
include hhandshake

theorem Session.adds_provision (hs : s.Solitary) (sess : Session) (w : World Memory) :
    w.Adds (Moment.Sends P) (sess.provision.runIn s w).2 := by
  refine Operation.Only.sends (A := fun e => ∀ a q, e = .post a q → q.command = "Provision") hs
    (fun a q h m => hhandshake a q m (h a q rfl)) (sess.only_provision ?_ fun _ => nofun) w
  intro account request hrequest a q he
  obtain ⟨rfl, rfl⟩ := Effect.post.inj he
  exact hrequest

variable {sess : Session}
  (hround : ∀ request m, request.command = "FolderSync" → P (sess.accountIn m) request m)
include hround

theorem Hierarchy.carries_sends (hs : s.Solitary) (w : World Memory) :
    (rounds sess).Carries s sess (fun _ v => w.Adds (Moment.Sends P) v)
      (fun _ v => w.Adds (Moment.Sends P) v) fun _ v => w.Adds (Moment.Sends P) v := by
  have hreplied {p : Progress} {v : World Memory} (hv : w.Adds (Moment.Sends P) v) (r c) :
      w.Adds (Moment.Sends P) ((rounds sess).replied sess p v r c) :=
    hv.trans (.sends_exchanged (hround (wire sess.settings p.key) v.mailbox rfl) r c)
  refine { look := fun c h => h.trans (.of_eq rfl), stop := id, limit := id
           drop := fun r c h => hreplied h r c, step := fun {p v} r c h => ?_ }
  have hv := hreplied (p := p) h r c
  rw [rounds_step]
  cases p.next sess.mayProvision (outcome (SyncKey.isInitial p.key) r) with
  | again q => exact hv
  | finish q => exact hv
  | provision q =>
    exact Step.ensures_after (.of_always (hv.trans (sess.adds_provision hhandshake hs _)))
  | fail e => exact hv

/-- However a pass over the hierarchy ends, what it sent has the property. -/
theorem Hierarchy.adds_pass (hs : s.Solitary) (w : World Memory) :
    w.Adds (Moment.Sends P) ((pass sess).runIn s w).2 := by
  have hcarries := carries_sends hhandshake hround hs w
  refine Ensures.always (ensures_pass_of_collect (.refl _ w) fun locks => ?_)
  have hstart : w.Adds (Moment.Sends P) { w with locks } := .of_eq rfl
  refine (hcarries.ensures hs sess.maxRounds hstart).mono (fun ⟨p, left⟩ v hv c l => ⟨?_, ?_⟩)
    fun _ _ h l => h.trans (.of_eq rfl)
  · have hcancelled : v.Adds (Moment.Sends P) { v with cancelled := c } := .of_eq rfl
    exact hv.trans (hcancelled.trans ((World.Adds.sends_landed _ p _).trans (.of_eq rfl)))
  · exact hv.trans (.of_eq rfl)

end
end
end MailSync
