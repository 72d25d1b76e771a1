import MailSync.DevicePolicy.Handshake
import MailSync.Proofs.Effects
import MailSync.Proofs.Mailbox.Folders
import MailSync.Proofs.Mailbox.Marks

/-!
# What the policy handshake does to a mailbox

A handshake that ends well changes the policy key and nothing else. One that fails leaves the
mailbox as it was, unless the server ordered a wipe: then nothing is left, and access is denied.
-/
namespace MailSync
open Mailbox (Memory policyKeyMark)

namespace Mailbox

/-- Two mailboxes that differ in the policy key at most. -/
structure Memory.SameButPolicy (m m' : Memory) : Prop where
  folders : m'.folders = m.folders
  extras : ∀ key, key ≠ policyKeyMark → m'.extras[key]? = m.extras[key]?

namespace Memory.SameButPolicy
variable {m m' m'' : Memory}

protected theorem refl (m : Memory) : m.SameButPolicy m := ⟨rfl, fun _ _ => rfl⟩

theorem trans (h : m.SameButPolicy m') (h' : m'.SameButPolicy m'') : m.SameButPolicy m'' where
  folders := h'.folders.trans h.folders
  extras key hk := (h'.extras key hk).trans (h.extras key hk)

theorem contents (h : m.SameButPolicy m') (id : String) : m'.contents id = m.contents id := by
  rw [Memory.contents, h.folders, Memory.contents]

theorem message? (h : m.SameButPolicy m') (folder id : String) :
    m'.message? folder id = m.message? folder id := by
  rw [Memory.message?, h.folders, Memory.message?]

theorem setPolicyKey (m : Memory) (key : Option String) :
    m.SameButPolicy (m.next (.setExtra policyKeyMark key)) where
  folders := rfl
  extras _ hk := getElem?_place_of_ne hk key

end Memory.SameButPolicy
end Mailbox

namespace World
variable {σ : Type} {w v u : World Memory}

/-- Later, with the same mailbox. -/
structure Still (w v : World σ) : Prop where
  history : w.history <+: v.history
  mailbox : v.mailbox = w.mailbox

/-- Later, with the same mailbox but for the policy key. -/
structure Held (w v : World Memory) : Prop where
  history : w.history <+: v.history
  mailbox : w.mailbox.SameButPolicy v.mailbox

theorem Still.refl (w : World σ) : w.Still w := ⟨List.prefix_rfl, rfl⟩

theorem Still.trans {w v u : World σ} (h : w.Still v) (h' : v.Still u) : w.Still u :=
  ⟨h.history.trans h'.history, h'.mailbox.trans h.mailbox⟩

theorem Still.exchanged (w : World σ) (account : Account) (request : Request)
    (result : Except TransportError Reply) (cancelled : Bool) :
    w.Still (w.exchanged account request result cancelled) :=
  ⟨List.prefix_append .., rfl⟩

theorem Still.held (h : w.Still v) : w.Held v := ⟨h.history, h.mailbox ▸ .refl _⟩

theorem Held.refl (w : World Memory) : w.Held w := (Still.refl w).held

theorem Held.trans (h : w.Held v) (h' : v.Held u) : w.Held u :=
  ⟨h.history.trans h'.history, h.mailbox.trans h'.mailbox⟩

end World

namespace DevicePolicy

/-- What a reply to the handshake comes to. -/
def outcome (result : Except TransportError Reply) : Except Failure Response := do
  let root ← Exchange.required "Provision" (← Exchange.documentOf "Provision" result)
  Exchange.ofDocument (Response.ofDocument root)

/-- Whether a reply orders the device to wipe its data. -/
def OrdersWipe (result : Except TransportError Reply) : Prop :=
  ∃ response, outcome result = .ok response ∧ response.remoteWipe = true

/-- What a reply to the handshake is accepted as. -/
structure Accepts (result : Except TransportError Reply) (response : Response) : Prop where
  outcome : outcome result = .ok response
  spared : response.remoteWipe = false
  status : response.status = statusOk

theorem Accepts.unique {result : Except TransportError Reply} {r r' : Response}
    (h : Accepts result r) (h' : Accepts result r') : r = r' :=
  Except.ok.inj (h.outcome.symm.trans h'.outcome)

theorem Accepts.not_ordersWipe {result : Except TransportError Reply} {response : Response}
    (h : Accepts result response) : ¬OrdersWipe result := by
  rintro ⟨response', houtcome, hwipe⟩
  obtain rfl := Except.ok.inj (houtcome.symm.trans h.outcome)
  cases h.spared.symm.trans hwipe

end DevicePolicy
open DevicePolicy

/-- Nothing is left in the mailbox, on an order that came since. -/
structure World.Wiped (w v : World Memory) : Prop where
  history : w.history <+: v.history
  mailbox : v.mailbox = .empty
  order : ∃ x ∈ w.since v, x.1.command = "Provision" ∧ OrdersWipe x.2

theorem World.Wiped.of_prefix {w v u : World Memory} (h : w.history <+: v.history)
    (h' : v.Wiped u) : w.Wiped u where
  history := h.trans h'.history
  mailbox := h'.mailbox
  order := by
    obtain ⟨x, hx, ho⟩ := h'.order
    rw [since_append h h'.history]
    exact ⟨x, List.mem_append_right _ hx, ho⟩

/-- An order that was obeyed at once. -/
theorem World.Wiped.of_order {w : World Memory} {account : Account} {request : Request}
    {result : Except TransportError Reply} {cancelled : Bool}
    (hrequest : request.command = "Provision") (ho : OrdersWipe result) :
    w.Wiped ((w.exchanged account request result cancelled).written [.wipe]) where
  history := (List.prefix_append ..).trans (List.prefix_append ..)
  mailbox := rfl
  order := by
    refine ⟨(request, result), ?_, hrequest, ho⟩
    rw [since_eq ((exchanges_written _ _).trans (exchanges_exchanged ..))]
    exact List.mem_singleton_self _

/-- How a handshake fails: the mailbox is left alone, or it was wiped on order. -/
def World.Refused (w : World Memory) (e : SyncError) (v : World Memory) : Prop :=
  w.Still v ∨ e = .accessDenied ∧ w.Wiped v

theorem World.Refused.of_still {w v u : World Memory} {e : SyncError} (h : w.Still v)
    (h' : v.Refused e u) : w.Refused e u := by
  rcases h' with h' | ⟨he, h'⟩
  · exact .inl (h.trans h')
  · exact .inr ⟨he, h'.of_prefix h.history⟩

namespace DevicePolicy
open Operation (Ensures)
variable {s : Surroundings Memory}

theorem run_exchange (hs : s.Solitary) (settings : ProtocolSettings) (account : Account)
    (root : Wbxml.Element) (w : World Memory) :
    ∃ result cancelled, (exchange settings account root).run s w =
      (outcome result, w.exchanged account
        (Exchange.request "Provision" root settings.commandTimeout) result cancelled) := by
  obtain ⟨r, c, h⟩ := Exchange.run_post hs account
    (Exchange.request "Provision" root settings.commandTimeout) w
  refine ⟨r, c, ?_⟩
  rw [exchange, Program.run_bind, h]
  rfl

/-- A leg is one exchange. An order to wipe is obeyed before anything else; the reply is accepted,
or there is nothing that it could be accepted as. -/
theorem ensures_leg_accepting (hs : s.Solitary) {settings : ProtocolSettings} {account : Account}
    {root : Wbxml.Element} {w : World Memory} {Q : Response → World Memory → Prop}
    {E : SyncError → World Memory → Prop}
    (haccepted : ∀ result c r, Accepts result r → Q r (w.exchanged account
      (Exchange.request "Provision" root settings.commandTimeout) result c))
    (hrefused : ∀ result c e, ¬OrdersWipe result → (∀ r, ¬Accepts result r) →
      E e (w.exchanged account (Exchange.request "Provision" root settings.commandTimeout)
        result c))
    (hwiped : ∀ result c, OrdersWipe result →
      E .accessDenied ((w.exchanged account
        (Exchange.request "Provision" root settings.commandTimeout) result c).written [.wipe])) :
    Ensures (leg (exchange settings account root)) s w Q E := by
  obtain ⟨result, c, hr⟩ := run_exchange hs settings account root w
  have hrun := Operation.runIn_ofProgram (exchange settings account root) s w
  rw [hr] at hrun
  refine .bind_ok hrun ?_
  cases ho : outcome result with
  | error f =>
    have hno : ¬OrdersWipe result := fun ⟨r, hr, _⟩ => nomatch ho.symm.trans hr
    exact .throw (hrefused result c _ hno fun r hr => nomatch ho.symm.trans hr.outcome)
  | ok r =>
    by_cases hw : r.remoteWipe
    · refine .bind (R := fun _ _ => False) ?_ fun _ _ h => h.elim
      unfold obey
      rw [if_pos hw]
      exact .bind_ok (Operation.runIn_ask_write rfl s _) (.throw (hwiped result c ⟨r, ho, hw⟩))
    · have hno : ¬OrdersWipe result := fun ⟨r', hr', hw'⟩ => by
        cases ho.symm.trans hr'
        exact hw hw'
      refine .bind (R := fun _ v => Q r v) ?_ fun _ v hv => .pure hv
      unfold obey
      rw [if_neg hw]
      split_ifs with hstatus
      · refine .throw (hrefused result c _ hno fun r' hr' => hstatus ?_)
        cases ho.symm.trans hr'.outcome
        exact hr'.status
      · have hok : r.status = statusOk := Decidable.of_not_not hstatus
        exact .pure (haccepted result c r ⟨ho, Bool.eq_false_iff.mpr hw, hok⟩)

theorem ensures_leg_of (hs : s.Solitary) {settings : ProtocolSettings} {account : Account}
    {root : Wbxml.Element} {w : World Memory} {Q : Response → World Memory → Prop}
    {E : SyncError → World Memory → Prop}
    (hspared : ∀ result c, ¬OrdersWipe result →
      let v := w.exchanged account (Exchange.request "Provision" root settings.commandTimeout)
        result c
      (∀ r, r.remoteWipe = false → Q r v) ∧ ∀ e, E e v)
    (hwiped : ∀ result c, OrdersWipe result →
      E .accessDenied ((w.exchanged account
        (Exchange.request "Provision" root settings.commandTimeout) result c).written [.wipe])) :
    Ensures (leg (exchange settings account root)) s w Q E :=
  ensures_leg_accepting hs
    (fun result c r hr => (hspared result c hr.not_ordersWipe).1 r hr.spared)
    (fun result c e hno _ => (hspared result c hno).2 e) hwiped

/-- An order to wipe is obeyed before anything else. -/
theorem ensures_leg (hs : s.Solitary) (settings : ProtocolSettings) (account : Account)
    (root : Wbxml.Element) (w : World Memory) :
    Ensures (leg (exchange settings account root)) s w
      (fun r v => w.Still v ∧ r.remoteWipe = false) w.Refused := by
  refine ensures_leg_of hs (fun result c _ => ?_) fun result c ho => .inr ⟨rfl, .of_order rfl ho⟩
  have hstill := World.Still.exchanged w account
    (Exchange.request "Provision" root settings.commandTimeout) result c
  exact ⟨fun r hr => ⟨hstill, hr⟩, fun e => .inl hstill⟩

theorem ensures_requireKey {Q : String → World Memory → Prop}
    {E : SyncError → World Memory → Prop} {w : World Memory} (what : String) (key : Option String)
    (hQ : ∀ key, Q key w) (hE : ∀ e, E e w) : Ensures (requireKey what key) s w Q E := by
  cases key with
  | none => exact .throw (hE _)
  | some key => exact .pure (hQ key)

end DevicePolicy

open Operation (Ensures) in
theorem Session.ensures_provision {s : Surroundings Memory} (hs : s.Solitary) (sess : Session)
    (w : World Memory) : Ensures sess.provision s w (fun _ v => w.Held v) w.Refused := by
  have hset {v : World Memory} (hv : w.Still v) (key : Option String) :
      Ensures (Mailbox.setPolicyKey key) s v (fun _ u => w.Held u) w.Refused := by
    refine .of_ok (Mailbox.runIn_setPolicyKey key) (hv.held.trans ⟨?_, ?_⟩)
    · exact List.prefix_append ..
    · exact .setPolicyKey v.mailbox key
  unfold provision
  split_ifs with hm
  · refine .bind (ensures_leg hs sess.settings _ request w) fun offer v hv => ?_
    obtain ⟨hv, -⟩ := hv
    split_ifs with hp
    · exact hset hv none
    · refine .bind (R := fun _ x => w.Still x)
        (ensures_requireKey _ _ (fun _ => hv) fun _ => .inl hv) fun key v hv => ?_
      refine .bind ((ensures_leg hs sess.settings _ _ v).mono (fun _ _ h => h) fun e u hu =>
        hu.of_still hv) fun final u hu => ?_
      have hu := hv.trans hu.1
      exact .bind (R := fun _ x => w.Still x)
        (ensures_requireKey _ _ (fun _ => hu) fun _ => .inl hu) fun key u hu => hset hu (some key)
  · exact .throw (.inl (.refl w))

section
variable {A : Effect → Prop}

theorem DevicePolicy.only_leg (hpost : ∀ account q, q.command = "Provision" → A (.post account q))
    (hask : ∀ call, A (.ask call)) (settings : ProtocolSettings) (account : Account)
    (root : Wbxml.Element) : Operation.Only A (leg (exchange settings account root)) := by
  have hex : (exchange settings account root).Only A :=
    (Exchange.only_post (hpost _ _ rfl)).bind fun _ => trivial
  refine (Operation.Only.ofProgram hex).bind fun o => ?_
  cases o with
  | error f => exact .throw _
  | ok r =>
    refine .bind ?_ fun _ => .pure r
    unfold obey
    split_ifs
    · exact (Operation.Only.ask (hask .wipe)).bind fun _ => .throw _
    · exact .throw _
    · exact .pure ()

/-- The handshake posts nothing but its own command. -/
theorem Session.only_provision
    (hpost : ∀ account q, q.command = "Provision" → A (.post account q))
    (hask : ∀ call, A (.ask call)) (sess : Session) : Operation.Only A sess.provision := by
  have hkey (what : String) (key : Option String) : Operation.Only A (requireKey what key) := by
    cases key <;> trivial
  unfold provision
  split_ifs
  · refine (only_leg hpost hask _ _ _).bind fun offer => ?_
    split_ifs
    · exact .ask (hask _)
    · refine (hkey _ _).bind fun temporary => ?_
      refine (only_leg hpost hask _ _ _).bind fun final => ?_
      exact (hkey _ _).bind fun key => .ask (hask _)
  · exact .throw _

end

/-- The handshake makes exchanges about its own command only. -/
theorem Session.avoids_provision {command : String} (hc : command ≠ "Provision") (sess : Session) :
    Operation.Only (Effect.Avoids command) sess.provision :=
  sess.only_provision (fun _ _ hq h => hc (h.symm.trans hq)) fun _ => trivial

theorem Session.quiet_provision {s : Surroundings Memory} (hs : s.Solitary) (command : String)
    (hc : command ≠ "Provision") (sess : Session) (w : World Memory) :
    w.Quiet command (sess.provision.runIn s w).2 :=
  (sess.avoids_provision hc).quiet hs w

end MailSync
