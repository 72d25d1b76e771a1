import MailSync.Proofs.DevicePolicy.Handshake
import MailSync.Proofs.Replies
import MailSync.Proofs.Sending
import MailSync.Proofs.Wbxml.Plain

/-!
# The course of the policy handshake

How far a handshake came is told by its exchanges: none, the one that brings the temporary key, or
that one and its acknowledgement. Until the last of them nothing is written. Then either the final
key is stored, or there is no policy and the key is removed, or an order to wipe is obeyed; in all
other cases the mailbox stays what it was.

What a reply offers, frees from, grants or orders is read off its document. Two things limit what is
shown. A key is acknowledged without its NUL characters, which the wire cannot carry. And an order
to wipe is obeyed only in a whole response, one that states its status as a number.
-/
namespace MailSync
open Mailbox (Call Memory policyKeyMark)
open Operation (Ensures)

variable {s : Surroundings Memory}

namespace DevicePolicy
open Wbxml (Element)
open CodePage

theorem acknowledgement_withoutNul (key : String) (status : UInt32) :
    (acknowledgement key status).withoutNul =
      acknowledgement (Text.withoutNul key) status := by
  simp only [acknowledgement, document, Element.withoutNul_node, List.map_cons, List.map_nil,
    Element.withoutNul_text, Element.withoutNul_number]
  rfl

/-- The server reads the key that is acknowledged, but for NUL characters. -/
theorem decode_encode_acknowledgement (key : String) (status : UInt32) :
    Wbxml.decode (acknowledgement key status).encode =
      .ok (acknowledgement (Text.withoutNul key) status) := by
  have htexts : ∀ e ∈ [Element.text Provision.policyType policyType,
      .text Provision.policyKey (Text.withoutNul key), .number Provision.status status],
      e.Faithful 0 := by
    refine List.forall_mem_cons.mpr ⟨Element.faithful_text (by decide) (by decide), ?_⟩
    refine List.forall_mem_cons.mpr
      ⟨Element.faithful_text (by decide) (Text.noNul_withoutNul key), ?_⟩
    exact List.forall_mem_singleton.mpr (Element.faithful_number (by decide) status)
  have hpolicy := Element.faithful_node (by decide : Provision.policy.Writable) htexts
  have hpolicies := Element.faithful_node (by decide : Provision.policies.Writable)
    (List.forall_mem_singleton.mpr hpolicy)
  have hdocument := Element.faithful_node (by decide : Provision.provision.Writable)
    (List.forall_mem_singleton.mpr hpolicies)
  have hfaithful : (acknowledgement key status).withoutNul.Faithful Wbxml.maxDepth := by
    rw [acknowledgement_withoutNul]
    exact hdocument.mono (by decide)
  rw [Element.decode_encode_of_withoutNul hfaithful, acknowledgement_withoutNul]

/-- What a reply says: the document of a good response of the handshake. -/
def Says (reply : Except TransportError Reply) (root : Element) : Prop :=
  ∃ body, reply = .ok ⟨200, body⟩ ∧ Wbxml.decode body = .ok root ∧
    root.tag = Provision.provision

theorem Says.unique {reply : Except TransportError Reply} {root root' : Element}
    (h : Says reply root) (h' : Says reply root') : root = root' := by
  obtain ⟨body, rfl, hroot, -⟩ := h
  obtain ⟨body', hbody, hroot', -⟩ := h'
  obtain rfl := (Reply.mk.inj (Except.ok.inj hbody)).2
  exact Except.ok.inj (hroot.symm.trans hroot')

/-- The policy in a document of the handshake. -/
def policyIn (document : Element) : Option Element :=
  document.path? [Provision.policies, Provision.policy]

def policyStatusIn (document : Element) : Option UInt32 :=
  (policyIn document).bind (·.childNumber? Provision.status)

def keyIn (document : Element) : Option String :=
  (policyIn document).bind (·.childText? Provision.policyKey)

theorem Response.ofDocument_eq_ok_iff {root : Element} {r : Response} :
    Response.ofDocument root = .ok r ↔ root.tag = Provision.provision ∧
      ∃ status, root.childNumber? Provision.status = some status ∧
        r = ⟨status, policyStatusIn root, keyIn root, root.has Provision.remoteWipe⟩ := by
  unfold Response.ofDocument Element.expectRoot Element.requireNumber
  split_ifs with htag
  · cases root.childNumber? Provision.status with
    | none => exact iff_of_false nofun fun ⟨_, _, h, _⟩ => nomatch h
    | some status =>
      refine ⟨fun h => ⟨htag, status, rfl, (Except.ok.inj h).symm⟩, ?_⟩
      rintro ⟨-, status', hstatus, rfl⟩
      obtain rfl := Option.some.inj hstatus
      rfl
  · exact iff_of_false nofun fun h => htag h.1

theorem outcome_eq_ok_iff {reply : Except TransportError Reply} {r : Response} :
    outcome reply = .ok r ↔
      ∃ root status, Says reply root ∧ root.childNumber? Provision.status = some status ∧
        r = ⟨status, policyStatusIn root, keyIn root, root.has Provision.remoteWipe⟩ := by
  constructor
  · intro h
    obtain ⟨document, hd, hrest⟩ := bind_eq_ok_iff.mp h
    obtain ⟨root, hroot, hr⟩ := bind_eq_ok_iff.mp hrest
    rw [Exchange.eq_some_of_required hroot] at hd
    obtain ⟨body, hreply, hdecode⟩ := Exchange.documentOf_eq_some_iff.mp hd
    obtain ⟨htag, status, hstatus, rfl⟩ :=
      Response.ofDocument_eq_ok_iff.mp (Exchange.eq_ok_of_ofDocument hr)
    exact ⟨root, status, ⟨body, hreply, hdecode, htag⟩, hstatus, rfl⟩
  · rintro ⟨root, status, ⟨body, rfl, hdecode, htag⟩, hstatus, rfl⟩
    have hd : Exchange.documentOf "Provision" (.ok ⟨200, body⟩) = .ok (some root) :=
      Exchange.documentOf_eq_some_iff.mpr ⟨body, rfl, hdecode⟩
    refine bind_eq_ok_iff.mpr ⟨_, hd, bind_eq_ok_iff.mpr ⟨root, rfl, ?_⟩⟩
    rw [Response.ofDocument_eq_ok_iff.mpr ⟨htag, status, hstatus, rfl⟩]
    rfl

/-- An order to wipe stands in a whole response, one that states its status. -/
theorem ordersWipe_iff {reply : Except TransportError Reply} :
    OrdersWipe reply ↔ ∃ root, Says reply root ∧ root.childNumber? Provision.status ≠ none ∧
      root.has Provision.remoteWipe = true := by
  unfold OrdersWipe
  simp only [outcome_eq_ok_iff]
  constructor
  · rintro ⟨_, ⟨root, status, said, hstatus, rfl⟩, hwipe⟩
    exact ⟨root, said, hstatus ▸ Option.some_ne_none status, hwipe⟩
  · rintro ⟨root, said, hstatus, hwipe⟩
    obtain ⟨status, hstatus⟩ := Option.ne_none_iff_exists'.mp hstatus
    exact ⟨_, ⟨root, status, said, hstatus, rfl⟩, hwipe⟩

/-- A reply that is a success and orders nothing. -/
structure Approves (reply : Except TransportError Reply) (root : Element) : Prop where
  document : Says reply root
  status : root.childNumber? Provision.status = some 1
  spared : root.has Provision.remoteWipe = false

theorem accepts_iff {reply : Except TransportError Reply} {r : Response} :
    Accepts reply r ↔
      ∃ root, Approves reply root ∧ r = ⟨1, policyStatusIn root, keyIn root, false⟩ := by
  constructor
  · rintro ⟨houtcome, hspared, hstatus⟩
    obtain ⟨root, status, said, hs, rfl⟩ := outcome_eq_ok_iff.mp houtcome
    obtain rfl : status = 1 := hstatus
    replace hspared : root.has Provision.remoteWipe = false := hspared
    exact ⟨root, ⟨said, hs, hspared⟩, by rw [hspared]⟩
  · rintro ⟨root, ⟨said, hs, hspared⟩, rfl⟩
    exact ⟨outcome_eq_ok_iff.mpr ⟨root, 1, said, hs, by rw [hspared]⟩, rfl, rfl⟩

theorem Approves.not_ordersWipe {reply : Except TransportError Reply} {root : Element}
    (h : Approves reply root) : ¬OrdersWipe reply :=
  (accepts_iff.mpr ⟨root, h, rfl⟩).not_ordersWipe

/-- A reply with a temporary key, which is to be acknowledged. -/
def Offers (reply : Except TransportError Reply) (key : String) : Prop :=
  ∃ root, Approves reply root ∧ policyStatusIn root ≠ some 2 ∧ keyIn root = some key

/-- A reply that there is no policy. -/
def Frees (reply : Except TransportError Reply) : Prop :=
  ∃ root, Approves reply root ∧ policyStatusIn root = some 2

/-- A reply with the final key. -/
def Grants (reply : Except TransportError Reply) (key : String) : Prop :=
  ∃ root, Approves reply root ∧ keyIn root = some key

/-- To look into what a reply is accepted as is to look into its document. -/
theorem exists_accepts_iff {reply : Except TransportError Reply}
    {P : Option UInt32 → Option String → Prop} :
    (∃ r, Accepts reply r ∧ P r.policyStatus r.key) ↔
      ∃ root, Approves reply root ∧ P (policyStatusIn root) (keyIn root) := by
  simp only [accepts_iff]
  constructor
  · rintro ⟨_, ⟨root, happroves, rfl⟩, hP⟩
    exact ⟨root, happroves, hP⟩
  · rintro ⟨root, happroves, hP⟩
    exact ⟨_, ⟨root, happroves, rfl⟩, hP⟩

theorem offers_iff {reply : Except TransportError Reply} {key : String} : Offers reply key ↔
    ∃ offer, Accepts reply offer ∧ offer.policyStatus ≠ some 2 ∧ offer.key = some key :=
  (exists_accepts_iff (P := fun status k => status ≠ some 2 ∧ k = some key)).symm

theorem Offers.unique {reply : Except TransportError Reply} {key key' : String}
    (h : Offers reply key) (h' : Offers reply key') : key = key' := by
  obtain ⟨root, happroves, -, hkey⟩ := h
  obtain ⟨root', happroves', -, hkey'⟩ := h'
  obtain rfl := happroves.document.unique happroves'.document
  exact Option.some.inj (hkey.symm.trans hkey')

theorem frees_iff {reply : Except TransportError Reply} :
    Frees reply ↔ ∃ offer, Accepts reply offer ∧ offer.policyStatus = some 2 :=
  (exists_accepts_iff (P := fun status _ => status = some 2)).symm

theorem grants_iff {reply : Except TransportError Reply} {key : String} :
    Grants reply key ↔ ∃ final, Accepts reply final ∧ final.key = some key :=
  (exists_accepts_iff (P := fun _ k => k = some key)).symm

end DevicePolicy
open CodePage DevicePolicy

namespace Session

/-- The request of one leg of the handshake. -/
def legRequest (sess : Session) (root : Wbxml.Element) : Request :=
  Exchange.request "Provision" root sess.settings.commandTimeout

/-- The world once a leg of the handshake was answered. -/
def answered (sess : Session) (root : Wbxml.Element) (w : World Memory)
    (reply : Except TransportError Reply) (cancelled : Bool) : World Memory :=
  w.exchanged { sess.account with policyKey := none } (sess.legRequest root) reply cancelled

/-- How far a handshake came, with its exchanges and the world after them. -/
inductive Reaches (sess : Session) (w : World Memory) : List Exchanged → World Memory → Prop
  | barred (h : sess.mayProvision = false) : Reaches sess w [] w
  | offer (may : sess.mayProvision = true) (reply : Except TransportError Reply)
      (cancelled : Bool) :
      Reaches sess w [(sess.legRequest request, reply)] (sess.answered request w reply cancelled)
  | acknowledged {first : Except TransportError Reply} {key : String}
      (may : sess.mayProvision = true) (offers : Offers first key)
      (reply : Except TransportError Reply) (cancelled later : Bool) :
      Reaches sess w
        [(sess.legRequest request, first),
          (sess.legRequest (acknowledgement key statusOk), reply)]
        (sess.answered (acknowledgement key statusOk) (sess.answered request w first cancelled)
          reply later)

namespace Reaches
variable {sess : Session} {w v : World Memory} {xs : List Exchanged}

theorem mailbox (h : sess.Reaches w xs v) : v.mailbox = w.mailbox := by
  cases h <;> rfl

theorem exchanges (h : sess.Reaches w xs v) : v.exchanges = w.exchanges ++ xs := by
  cases h with
  | barred => exact (List.append_nil _).symm
  | offer => exact World.exchanges_exchanged ..
  | acknowledged =>
    simp only [answered, World.exchanges_exchanged, List.append_assoc]
    rfl

theorem length_le (h : sess.Reaches w xs v) : xs.length ≤ 2 := by
  cases h <;> simp

/-- The second request acknowledges the key that the first reply offers. -/
theorem echoes {x y : Exchanged} (h : sess.Reaches w [x, y] v) :
    ∃ key, Offers x.2 key ∧ y.1 = sess.legRequest (acknowledgement key statusOk) := by
  cases h with
  | acknowledged _ offers => exact ⟨_, offers, rfl⟩

theorem eq_nil_iff (h : sess.Reaches w xs v) : xs = [] ↔ sess.mayProvision = false := by
  cases h with
  | barred hbarred => exact iff_of_true rfl hbarred
  | offer may => exact iff_of_false nofun fun h => nomatch may.symm.trans h
  | acknowledged may => exact iff_of_false nofun fun h => nomatch may.symm.trans h

/-- Only requests without a policy key were sent, and the mailbox was left alone. -/
theorem adds {P : Moment Memory → Prop} (h : sess.Reaches w xs v)
    (hsent : ∀ root, P ⟨.sent { sess.account with policyKey := none } (sess.legRequest root),
      w.mailbox⟩)
    (hreceived : ∀ reply, P ⟨.received reply, w.mailbox⟩) : w.Adds P v := by
  have hleg (root : Wbxml.Element) (reply : Except TransportError Reply) (c : Bool)
      {u : World Memory} (hu : u.mailbox = w.mailbox) : u.Adds P (sess.answered root u reply c) :=
    .exchanged (hu.symm ▸ hsent root) (hu.symm ▸ hreceived reply) c
  cases h with
  | barred => exact .refl P w
  | offer _ reply c => exact hleg _ reply c rfl
  | acknowledged _ _ reply c later =>
    exact (hleg request _ c rfl).trans (hleg _ reply later rfl)

end Reaches

/-- The exchanges of a handshake that ends well, and the policy key that it leaves. -/
inductive Complete : List Exchanged → Option String → Prop
  | freed {x : Exchanged} (frees : Frees x.2) : Complete [x] none
  | granted {x y : Exchanged} {temporary key : String} (offers : Offers x.2 temporary)
      (grants : Grants y.2 key) : Complete [x, y] (some key)

/-- How a handshake ends. -/
inductive Course (sess : Session) (w : World Memory) : Except SyncError Unit → World Memory → Prop
  | settled {xs : List Exchanged} {v : World Memory} {key : Option String}
      (reaches : sess.Reaches w xs v) (complete : Complete xs key) :
      Course sess w (.ok ()) (v.written [.setExtra policyKeyMark key])
  | refused {xs : List Exchanged} {v : World Memory} {e : SyncError}
      (reaches : sess.Reaches w xs v) (incomplete : ∀ key, ¬Complete xs key)
      (spared : ∀ x ∈ xs, ¬OrdersWipe x.2) : Course sess w (.error e) v
  | wiped (xs : List Exchanged) {x : Exchanged} {v : World Memory}
      (reaches : sess.Reaches w (xs ++ [x]) v) (order : OrdersWipe x.2) :
      Course sess w (.error .accessDenied) (v.written [.wipe])

theorem Complete.unique {xs : List Exchanged} {key key' : Option String} (h : Complete xs key)
    (h' : Complete xs key') : key = key' := by
  cases h with
  | freed => cases h' with | freed => rfl
  | granted _ grants =>
    obtain ⟨final, hfinal, hkey⟩ := grants
    cases h' with
    | granted _ grants' =>
      obtain ⟨final', hfinal', hkey'⟩ := grants'
      obtain rfl := hfinal.document.unique hfinal'.document
      exact hkey.symm.trans hkey'

theorem Complete.not_ordersWipe {xs : List Exchanged} {key : Option String} (h : Complete xs key) :
    ∀ x ∈ xs, ¬OrdersWipe x.2 := by
  cases h with
  | freed frees =>
    obtain ⟨offer, hoffer, -⟩ := frees
    exact List.forall_mem_singleton.mpr hoffer.not_ordersWipe
  | granted offers grants =>
    obtain ⟨offer, hoffer, -⟩ := offers
    obtain ⟨final, hfinal, -⟩ := grants
    exact List.forall_mem_cons.mpr ⟨hoffer.not_ordersWipe,
      List.forall_mem_singleton.mpr hfinal.not_ordersWipe⟩

/-- Every handshake takes its course, whatever is answered. -/
theorem ensures_course (hs : s.Solitary) (sess : Session) (w : World Memory) :
    Ensures sess.provision s w (fun _ v => sess.Course w (.ok ()) v)
      fun e v => sess.Course w (.error e) v := by
  unfold provision
  split_ifs with hm
  swap
  · exact .throw (.refused (.barred (Bool.eq_false_iff.mpr hm)) nofun (List.forall_mem_nil _))
  refine .bind (R := fun offer v => ∃ reply c, v = sess.answered request w reply c ∧
    Accepts reply offer) (ensures_leg_accepting hs ?_ ?_ ?_) ?_
  · exact fun reply c offer hoffer => ⟨reply, c, rfl, hoffer⟩
  · intro reply c e hspared hno
    refine .refused (.offer hm reply c) ?_ (List.forall_mem_singleton.mpr hspared)
    rintro _ (frees | _)
    obtain ⟨offer, hoffer, -⟩ := frees_iff.mp frees
    exact hno offer hoffer
  · exact fun reply c order => .wiped [] (.offer hm reply c) order
  rintro offer _ ⟨reply, c, rfl, hoffer⟩
  split_ifs with hpolicy
  · refine .of_ok (Mailbox.runIn_setPolicyKey none) (.settled (.offer hm reply c) (.freed ?_))
    exact frees_iff.mpr ⟨offer, hoffer, hpolicy⟩
  cases hkey : offer.key with
  | none =>
    refine .bind (R := fun _ _ => False) (.throw ?_) fun _ _ h => h.elim
    refine .refused (.offer hm reply c) ?_ (List.forall_mem_singleton.mpr hoffer.not_ordersWipe)
    rintro _ (frees | _)
    obtain ⟨offer', hoffer', hpolicy'⟩ := frees_iff.mp frees
    exact hpolicy (hoffer'.unique hoffer ▸ hpolicy')
  | some temporary =>
    have hoffers : Offers reply temporary := offers_iff.mpr ⟨offer, hoffer, hpolicy, hkey⟩
    refine .bind_ok (Operation.runIn_pure ..) ?_
    refine .bind (R := fun final v => ∃ reply' c', v = sess.answered
      (acknowledgement temporary statusOk) (sess.answered request w reply c) reply' c' ∧
        Accepts reply' final) (ensures_leg_accepting hs ?_ ?_ ?_) ?_
    · exact fun reply' c' final hfinal => ⟨reply', c', rfl, hfinal⟩
    · intro reply' c' e hspared hno
      refine .refused (.acknowledged hm hoffers reply' c c') ?_
        (List.forall_mem_cons.mpr ⟨hoffer.not_ordersWipe, List.forall_mem_singleton.mpr hspared⟩)
      rintro _ (_ | ⟨-, grants⟩)
      obtain ⟨final, hfinal, -⟩ := grants_iff.mp grants
      exact hno final hfinal
    · exact fun reply' c' order => .wiped [_] (.acknowledged hm hoffers reply' c c') order
    rintro final _ ⟨reply', c', rfl, hfinal⟩
    have hreaches := Reaches.acknowledged (w := w) hm hoffers reply' c c'
    cases hgranted : final.key with
    | none =>
      refine .bind (R := fun _ _ => False) (.throw ?_) fun _ _ h => h.elim
      refine .refused hreaches ?_ (List.forall_mem_cons.mpr
        ⟨hoffer.not_ordersWipe, List.forall_mem_singleton.mpr hfinal.not_ordersWipe⟩)
      rintro _ (_ | ⟨-, grants⟩)
      obtain ⟨final', hfinal', hkey'⟩ := grants_iff.mp grants
      rw [hfinal'.unique hfinal, hgranted] at hkey'
      cases hkey'
    | some key =>
      refine .bind_ok (Operation.runIn_pure ..) (.of_ok (Mailbox.runIn_setPolicyKey (some key)) ?_)
      exact .settled hreaches (.granted hoffers (grants_iff.mpr ⟨final, hfinal, hgranted⟩))

/-- A handshake asks at most twice and never with a policy key in force. The server reads in the
second request the key that it offered in reply to the first, but for NUL characters, which the wire
cannot carry. The mailbox is at each moment what it was before or what it is at the end. -/
structure Orderly (sess : Session) (w v : World Memory) : Prop where
  few : (w.since v).length ≤ 2
  barred : w.since v = [] ↔ sess.mayProvision = false
  keyless : w.Adds (Moment.Sends fun account request _ =>
    account.policyHeader = "0" ∧ request.command = "Provision") v
  echoes : ∀ x y, w.since v = [x, y] → ∃ key root, Offers x.2 key ∧
    Wbxml.decode y.1.body = .ok root ∧ keyIn root = some (Text.withoutNul key) ∧
    (Text.NoNul key → keyIn root = some key)
  instants : w.Adds (fun moment => moment.mailbox = w.mailbox ∨ moment.mailbox = v.mailbox) v

/-- A handshake is done wholly or not at all, and its exchanges tell which. It ends well with those
of a complete handshake and no others, and then the key that they leave is all that has changed. If
it fails, then either nothing has changed or nothing is left. Nothing has changed if no reply speaks
of a wipe; nothing is left, and access is denied, if one does in a whole response, which states its
status as a number. -/
structure AllOrNothing (sess : Session) (w v : World Memory) (result : Except SyncError Unit) :
    Prop extends sess.Orderly w v where
  ok_iff : result = .ok () ↔ ∃ key, Complete (w.since v) key
  complete : ∀ key, Complete (w.since v) key →
    w.mailbox.SameButPolicy v.mailbox ∧ v.mailbox.extras[policyKeyMark]? = key
  failed : ∀ e, result = .error e →
    v.mailbox = w.mailbox ∨ e = .accessDenied ∧ v.mailbox = .empty
  spared : ∀ e, result = .error e →
    (∀ x ∈ w.since v, ∀ root, Says x.2 root → root.has Provision.remoteWipe = false) →
    v.mailbox = w.mailbox
  wiped : ∀ x ∈ w.since v, ∀ root, Says x.2 root → root.has Provision.remoteWipe = true →
    root.childNumber? Provision.status ≠ none →
    result = .error .accessDenied ∧ v.mailbox = .empty

section
variable {sess : Session} {w v : World Memory} {xs : List Exchanged}

theorem Reaches.since (h : sess.Reaches w xs v) : w.since v = xs := World.since_eq h.exchanges

theorem Reaches.since_written (h : sess.Reaches w xs v) (calls : List Call) :
    w.since (v.written calls) = xs :=
  World.since_eq ((World.exchanges_written v calls).trans h.exchanges)

theorem Reaches.orderly (h : sess.Reaches w xs v) {u : World Memory} (hsince : w.since u = xs)
    (hadds : ∀ {P : Moment Memory → Prop}, (∀ call, P ⟨.wrote call, u.mailbox⟩) → v.Adds P u) :
    sess.Orderly w u where
  few := hsince ▸ h.length_le
  barred := hsince ▸ h.eq_nil_iff
  keyless := by
    have hsent : w.Adds (Moment.Sends fun account request _ =>
        account.policyHeader = "0" ∧ request.command = "Provision") v := by
      refine h.adds (fun root account request he => ?_) fun _ => Moment.sends_of_ne nofun
      obtain ⟨rfl, rfl⟩ := Event.sent.inj he
      exact ⟨rfl, rfl⟩
    exact hsent.trans (hadds fun _ => Moment.sends_of_ne nofun)
  echoes x y hxy := by
    obtain rfl := hsince.symm.trans hxy
    obtain ⟨key, hoffers, hrequest⟩ := h.echoes
    refine ⟨key, acknowledgement (Text.withoutNul key) statusOk, hoffers, ?_, rfl, fun hkey => ?_⟩
    · rw [hrequest]
      exact decode_encode_acknowledgement key statusOk
    · rw [hkey.withoutNul_eq]
      rfl
  instants := (h.adds (fun _ => .inl rfl) fun _ => .inl rfl).trans (hadds fun _ => .inr rfl)

theorem Reaches.orderly_written (h : sess.Reaches w xs v) (call : Call) :
    sess.Orderly w (v.written [call]) :=
  h.orderly (h.since_written [call]) fun hP => ⟨_, rfl, List.forall_mem_singleton.mpr (hP call)⟩

theorem Course.allOrNothing {result : Except SyncError Unit} (h : sess.Course w result v) :
    sess.AllOrNothing w v result := by
  cases h with
  | @settled xs u key reaches complete =>
    have hsince := reaches.since_written [.setExtra policyKeyMark key]
    exact {
      toOrderly := reaches.orderly_written _
      ok_iff := iff_of_true rfl ⟨key, hsince.symm ▸ complete⟩
      complete := fun key' h => by
        obtain rfl := complete.unique (hsince ▸ h)
        rw [← reaches.mailbox]
        exact ⟨.setPolicyKey u.mailbox key, Mailbox.getElem?_place_self ..⟩
      failed := nofun
      spared := nofun
      wiped := fun x hx root hroot hwipe hstatus => by
        rw [hsince] at hx
        exact absurd (ordersWipe_iff.mpr ⟨root, hroot, hstatus, hwipe⟩)
          (complete.not_ordersWipe x hx) }
  | refused reaches incomplete spared =>
    have hsince := reaches.since
    exact {
      toOrderly := reaches.orderly hsince fun _ => .refl _ v
      ok_iff := iff_of_false nofun fun ⟨key, h⟩ => incomplete key (hsince ▸ h)
      complete := fun key h => absurd (hsince ▸ h) (incomplete key)
      failed := fun _ _ => .inl reaches.mailbox
      spared := fun _ _ _ => reaches.mailbox
      wiped := fun x hx root hroot hwipe hstatus =>
        absurd (ordersWipe_iff.mpr ⟨root, hroot, hstatus, hwipe⟩) (spared x (hsince ▸ hx)) }
  | @wiped xs x u reaches order =>
    have hsince := reaches.since_written [.wipe]
    have hx : x ∈ w.since (u.written [.wipe]) :=
      hsince.symm ▸ List.mem_append_right xs (List.mem_singleton_self x)
    have hno (key : Option String) : ¬Complete (w.since (u.written [.wipe])) key :=
      fun h => h.not_ordersWipe x hx order
    exact {
      toOrderly := reaches.orderly_written _
      ok_iff := iff_of_false nofun fun ⟨key, h⟩ => hno key h
      complete := fun key h => absurd h (hno key)
      failed := fun _ he => .inr ⟨(Except.error.inj he).symm, rfl⟩
      spared := fun _ _ hspared => by
        obtain ⟨root, hroot, -, hwipe⟩ := ordersWipe_iff.mp order
        cases hwipe.symm.trans (hspared x hx root hroot)
      wiped := fun _ _ _ _ _ _ => ⟨rfl, rfl⟩ }

end

/-- Whatever is stored and whatever the server answers, a handshake is all or nothing. -/
theorem provision_is_all_or_nothing (hs : s.Solitary) (sess : Session) (w : World Memory) :
    sess.AllOrNothing w (sess.provision.runIn s w).2 (sess.provision.runIn s w).1 := by
  have hcourse := sess.ensures_course hs w
  rcases hr : sess.provision.runIn s w with ⟨e | ⟨⟩, v⟩
  · exact (hcourse.error hr).allOrNothing
  · exact (hcourse.ok hr).allOrNothing

/-- A mailbox with an old policy key. -/
def provisioned : World Memory := World.inbox.written [.setExtra policyKeyMark (some "old")]

/-- A server that offers a temporary key and grants another one for it. -/
def granting : Script Memory where
  replies := [.ok ⟨200, (responseDocument 1 (some "temporary")).encode⟩,
    .ok ⟨200, (responseDocument 1 (some "final")).encode⟩]
  meanwhile := []
  id := ""

/-- The old key gives way to the final one, and the temporary one is never there but in the second
request. -/
theorem granting_is_all_or_nothing :
    granting.surroundings.Solitary ∧
    (Session.sample.provision.runIn granting.surroundings provisioned).1 = .ok () ∧
    (Session.sample.provision.runIn granting.surroundings provisioned).2.mailbox.extras[
      policyKeyMark]? = some "final" ∧
    ∃ x y root, provisioned.since
        (Session.sample.provision.runIn granting.surroundings provisioned).2 = [x, y] ∧
      Wbxml.decode y.1.body = .ok root ∧ keyIn root = some "temporary" := by
  have hs : granting.surroundings.Solitary := Script.solitary_surroundings fun _ h => nomatch h
  have h := provision_is_all_or_nothing hs .sample provisioned
  have hoffers : Offers (.ok ⟨200, (responseDocument 1 (some "temporary")).encode⟩) "temporary" :=
    ⟨responseDocument 1 (some "temporary"), ⟨⟨_, rfl, rfl, rfl⟩, rfl, rfl⟩, by decide, rfl⟩
  have hgrants : Grants (.ok ⟨200, (responseDocument 1 (some "final")).encode⟩) "final" :=
    ⟨responseDocument 1 (some "final"), ⟨⟨_, rfl, rfl, rfl⟩, rfl, rfl⟩, rfl⟩
  have hsince : provisioned.since
      (Session.sample.provision.runIn granting.surroundings provisioned).2 =
        [(Session.sample.legRequest request, _),
          (Session.sample.legRequest (acknowledgement "temporary" statusOk), _)] := rfl
  have hcomplete : Complete (provisioned.since
      (Session.sample.provision.runIn granting.surroundings provisioned).2) (some "final") :=
    hsince ▸ .granted hoffers hgrants
  obtain ⟨key, root, hoffers', hroot, -, hkey⟩ := h.echoes _ _ hsince
  obtain rfl : key = "temporary" := hoffers'.unique hoffers
  exact ⟨hs, h.ok_iff.mpr ⟨_, hcomplete⟩, (h.complete _ hcomplete).2, _, _, root, hsince, hroot,
    hkey (by decide)⟩

/-- An order to wipe that does not say how the request went. -/
def statusless : Wbxml.Element := .node Provision.provision [.empty Provision.remoteWipe]

/-- An offer of a key with a NUL character in it. -/
def nulOffer : Wbxml.Element :=
  .node Provision.provision [.number Provision.status 1,
    .node Provision.policies [.node Provision.policy
      [.number Provision.status 1, .bytes Provision.policyKey [97, 0, 98]]]]

/-- A server that gives one reply. -/
def answering (document : Wbxml.Element) : Script Memory where
  replies := [.ok ⟨200, document.encode⟩]
  meanwhile := []
  id := ""

theorem solitary_answering (document : Wbxml.Element) :
    (answering document).surroundings.Solitary :=
  Script.solitary_surroundings fun _ h => nomatch h

/-- An order to wipe that states no status is not obeyed, and a key with a NUL character is
acknowledged without it. -/
theorem not_every_handshake_complies :
    (¬∀ (s : Surroundings Memory) (sess : Session) (w : World Memory), s.Solitary →
      ∀ x ∈ w.since (sess.provision.runIn s w).2, ∀ root, Says x.2 root →
        root.has Provision.remoteWipe = true →
        (sess.provision.runIn s w).1 = .error .accessDenied ∧
          (sess.provision.runIn s w).2.mailbox = .empty) ∧
    ¬∀ (s : Surroundings Memory) (sess : Session) (w : World Memory) (x y : Exchanged)
        (key : String), s.Solitary → w.since (sess.provision.runIn s w).2 = [x, y] →
        Offers x.2 key → (Wbxml.decode y.1.body).toOption.bind keyIn = some key := by
  constructor
  · intro h
    have hsince : provisioned.since (Session.sample.provision.runIn
        (answering statusless).surroundings provisioned).2 = [_] := rfl
    have hwiped := h (answering statusless).surroundings .sample provisioned
      (solitary_answering statusless) _ (hsince ▸ List.mem_singleton_self _) statusless
      ⟨_, rfl, rfl, rfl⟩ rfl
    cases hwiped.1
  · intro h
    have hsince : provisioned.since (Session.sample.provision.runIn
        (answering nulOffer).surroundings provisioned).2 = [_, _] := rfl
    have hoffers : Offers (.ok ⟨200, nulOffer.encode⟩) "a\x00b" :=
      ⟨nulOffer, ⟨⟨_, rfl, rfl, rfl⟩, rfl, rfl⟩, by decide, rfl⟩
    have hsame : some "ab" = some "a\x00b" := h (answering nulOffer).surroundings .sample
      provisioned _ _ "a\x00b" (solitary_answering nulOffer) hsince hoffers
    exact absurd hsame (by decide)

end Session
end MailSync
