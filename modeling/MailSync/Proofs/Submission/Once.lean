import MailSync.Client
import MailSync.Proofs.Attempts
import MailSync.Proofs.Replies
import MailSync.Proofs.Wbxml.Plain

/-!
# Mail goes out once

Mail must neither be lost nor go out twice. It is submitted a second time only where the server has
refused it with a demand for the handshake, which then succeeded, and the client takes it for sent
exactly if the last reply confirms it.
-/
namespace MailSync

namespace Submission
open Wbxml (Element)
open CodePage

variable {documents : Bool} {mime : Bytes} {reply : Except TransportError Reply}

/-! ### What is posted -/

/-- A request that carries mail: as the one value of a document, or as it is. -/
structure Carries (documents : Bool) (mime : Bytes) (q : Request) : Prop where
  document : documents = true → ∃ root, Wbxml.decode q.body = .ok root ∧
    root.tag = Compose.sendMail ∧ root.findAll Compose.mime = [.bytes Compose.mime mime]
  bare : documents = false → q.body = mime

theorem request_withoutNul (clientId : String) (mime : Bytes) (saveInSent : Bool) :
    (request clientId mime saveInSent).withoutNul =
      request (Text.withoutNul clientId) mime saveInSent := by
  cases saveInSent <;>
    simp only [request, Element.withoutNul_node, List.map_cons, List.map_append,
      Element.withoutNul_text] <;> rfl

theorem findAll_request (clientId : String) (mime : Bytes) (saveInSent : Bool) :
    (request clientId mime saveInSent).findAll Compose.mime = [.bytes Compose.mime mime] := by
  cases saveInSent <;> rfl

theorem decode_encode_request (clientId : String) (h : mime.length < 2 ^ 32) (saveInSent : Bool) :
    Wbxml.decode (request clientId mime saveInSent).encode =
      .ok (request (Text.withoutNul clientId) mime saveInSent) := by
  have hparts : ∀ e ∈ Element.text Compose.clientId (Text.withoutNul clientId) ::
      ((if saveInSent then [.empty Compose.saveInSentItems] else []) ++
        [.bytes Compose.mime mime]), e.Faithful 0 := by
    refine List.forall_mem_cons.mpr
      ⟨Element.faithful_text (by decide) (Text.noNul_withoutNul clientId), ?_⟩
    refine List.forall_mem_append.mpr ⟨?_,
      List.forall_mem_singleton.mpr (Element.faithful_bytes (by decide) h)⟩
    cases saveInSent with
    | true => exact List.forall_mem_singleton.mpr (Element.faithful_empty (by decide))
    | false => exact List.forall_mem_nil _
  have hmail := Element.faithful_node (by decide : Compose.sendMail.Writable) hparts
  have hfaithful : (request clientId mime saveInSent).withoutNul.Faithful Wbxml.maxDepth := by
    rw [request_withoutNul]
    exact hmail.mono (by decide)
  rw [Element.decode_encode_of_withoutNul hfaithful, request_withoutNul]

/-! ### What a reply comes to -/

def outcome (documents : Bool) (reply : Except TransportError Reply) : Except Failure Unit :=
  if documents then Exchange.documentOf command reply >>= accepted
  else discard (Exchange.documentOf command reply)

/-- A reply that takes the mail. -/
inductive Confirms (documents : Bool) : Except TransportError Reply → Prop
  | empty : Confirms documents (.ok ⟨200, []⟩)
  | document {body : Bytes} {root : Element} (decodes : Wbxml.decode body = .ok root)
      (takes : documents = true → root.tag = Compose.sendMail ∧
        ∀ n, root.childNumber? Compose.status = some n → n = 1) :
      Confirms documents (.ok ⟨200, body⟩)

/-- A reply that refuses the mail until the device has a policy. -/
inductive Demands (documents : Bool) : Except TransportError Reply → Prop
  | http (body : Bytes) : Demands documents (.ok ⟨449, body⟩)
  | document {body : Bytes} {root : Element} {n : UInt32} (reads : documents = true)
      (decodes : Wbxml.decode body = .ok root) (tag : root.tag = Compose.sendMail)
      (status : root.childNumber? Compose.status = some n)
      (code : n = 140 ∨ 142 ≤ n ∧ n ≤ 144) : Demands documents (.ok ⟨200, body⟩)

/-- How the document of a reply refuses the mail. -/
theorem accepted_cases (root : Element) :
    (accepted (some root) = .ok () ∧ root.tag = Compose.sendMail ∧
        ∀ n, root.childNumber? Compose.status = some n → n = 1) ∨
      ∃ f, accepted (some root) = .error f ∧
        (f.verdict = .malformed ∧ root.tag ≠ Compose.sendMail ∨
          root.tag = Compose.sendMail ∧ ∃ n, root.childNumber? Compose.status = some n ∧ n ≠ 1 ∧
            f.verdict = .ofCommand n) := by
  unfold accepted
  by_cases htag : root.tag = Compose.sendMail
  · have hstatus : status? (some root) = .ok (root.childNumber? Compose.status) := by
      rw [status?, Element.expectRoot, if_pos htag]
      rfl
    rw [hstatus]
    cases hn : root.childNumber? Compose.status with
    | none => exact .inl ⟨rfl, htag, nofun⟩
    | some n =>
      by_cases hone : n = 1
      · refine .inl ⟨if_pos hone, htag, fun k hk => ?_⟩
        rw [← Option.some.inj hk, hone]
      · exact .inr ⟨_, if_neg hone, .inr ⟨htag, n, rfl, hone, rfl⟩⟩
  · have hstatus : status? (some root) = .error (.wrongRoot "SendMail" root.tag) := by
      rw [status?, Element.expectRoot, if_neg htag]
      rfl
    rw [hstatus]
    exact .inr ⟨_, rfl, .inl ⟨rfl, htag⟩⟩

theorem confirms_iff : Confirms documents reply ↔ ∃ document,
    Exchange.documentOf command reply = .ok document ∧
      (documents = true → accepted document = .ok ()) := by
  constructor
  · rintro (_ | ⟨decodes, takes⟩)
    · exact ⟨none, rfl, fun _ => rfl⟩
    · refine ⟨_, Exchange.documentOf_eq_some_iff.mpr ⟨_, rfl, decodes⟩, fun hdocuments => ?_⟩
      obtain ⟨htag, hone⟩ := takes hdocuments
      rcases accepted_cases _ with ⟨hok, -⟩ | ⟨f, -, ⟨-, hno⟩ | ⟨-, n, hn, hno, -⟩⟩
      · exact hok
      · exact absurd htag hno
      · exact absurd (hone n hn) hno
  · rintro ⟨_ | root, hdocument, haccepted⟩
    · obtain rfl := Exchange.documentOf_eq_none_iff.mp hdocument
      exact .empty
    · obtain ⟨body, rfl, decodes⟩ := Exchange.documentOf_eq_some_iff.mp hdocument
      refine .document decodes fun hdocuments => ?_
      rcases accepted_cases root with ⟨-, h⟩ | ⟨f, herror, -⟩
      · exact h
      · cases herror.symm.trans (haccepted hdocuments)

theorem outcome_eq_ok_iff : outcome documents reply = .ok () ↔ Confirms documents reply := by
  rw [confirms_iff, outcome]
  cases documents with
  | true =>
    rw [if_pos rfl, bind_eq_ok_iff]
    simp only [forall_const]
  | false =>
    cases Exchange.documentOf command reply with
    | error f => exact iff_of_false nofun fun ⟨_, h, _⟩ => nomatch h
    | ok document => exact iff_of_true rfl ⟨document, rfl, nofun⟩

theorem demands_of_outcome {f : Failure} (h : outcome documents reply = .error f)
    (hf : f.verdict = .provisioningRequired) : Demands documents reply := by
  cases hdocument : Exchange.documentOf command reply with
  | error f' =>
    have hsame : f' = f := by
      cases documents <;> rw [outcome, hdocument] at h <;> exact Except.error.inj h
    obtain ⟨body, rfl⟩ := Exchange.eq_449_of_documentOf hdocument (hsame ▸ hf)
    exact .http body
  | ok document =>
    rw [outcome, hdocument] at h
    cases documents with
    | false => cases h
    | true =>
      change accepted document = .error f at h
      cases document with
      | none => cases h
      | some root =>
        obtain ⟨body, rfl, decodes⟩ := Exchange.documentOf_eq_some_iff.mp hdocument
        rcases accepted_cases root with ⟨hok, -⟩ | ⟨f', herror, hreason⟩
        · cases hok.symm.trans h
        obtain rfl := Except.error.inj (herror.symm.trans h)
        rcases hreason with ⟨hmalformed, -⟩ | ⟨htag, n, hn, -, hverdict⟩
        · cases hmalformed.symm.trans hf
        · exact .document rfl decodes htag hn
            (Verdict.ofCommand_eq_provisioningRequired_iff.mp (hverdict.symm.trans hf))

/-! ### One attempt -/

/-- An attempt is one request that carries the mail, and what its reply comes to. -/
def Attempt (documents : Bool) (mime : Bytes) (t : List Asked) (o : Except Failure Unit) : Prop :=
  ∃ q reply, exchangesOf command t = [(q, reply)] ∧ Carries documents mime q ∧
    o = outcome documents reply

theorem always_exchange (settings : ProtocolSettings) (saveInSent : Bool) (account : Account)
    (h : mime.length < 2 ^ 32) :
    (exchange settings mime saveInSent account).Always
      (Attempt account.takesMailDocuments mime) := by
  unfold exchange
  split_ifs with hdocuments
  · intro clientId reply
    refine ⟨_, reply, rfl, ⟨fun _ => ?_, fun hno => ?_⟩, ?_⟩
    · exact ⟨_, decode_encode_request clientId h saveInSent, rfl, findAll_request ..⟩
    · cases hdocuments.symm.trans hno
    · rw [outcome, if_pos hdocuments]
      rfl
  · intro reply
    refine ⟨_, reply, rfl, ⟨fun hyes => absurd hyes hdocuments, fun _ => rfl⟩, ?_⟩
    rw [outcome, if_neg hdocuments]
    rfl

/-! ### Sending -/

/-- How mail was sent: at most twice, the second time once the handshake that was demanded had
succeeded, each time as it is; and whether it is taken for sent. -/
structure SentOnce (sess : Session) (mime : Bytes) (t : List Asked) (r : Except SyncError Unit) :
    Prop where
  few : (exchangesOf command t).length ≤ 2
  again : ∀ x y, exchangesOf command t = [x, y] →
    Demands sess.account.takesMailDocuments x.2 ∧ sess.mayProvision = true ∧
      ∃ before handshake after, t = before ++ (handshake ++ after) ∧
        exchangesOf command before = [x] ∧ exchangesOf command after = [y] ∧
        sess.provision.run.Yields handshake (.ok ())
  carries : ∀ x ∈ exchangesOf command t, Carries sess.account.takesMailDocuments mime x.1
  ok_iff : r = .ok () ↔ ∃ x, (exchangesOf command t).getLast? = some x ∧
    Confirms sess.account.takesMailDocuments x.2

section
variable {sess : Session} {x y : Exchanged} {t : List Asked} {o : Except Failure Unit}

/-- A submission that went out once has been sent if its reply confirms it. -/
theorem SentOnce.of_one {r : Except SyncError Unit} (ht : exchangesOf command t = [x])
    (hcarries : Carries sess.account.takesMailDocuments mime x.1)
    (hr : r = .ok () ↔ Confirms sess.account.takesMailDocuments x.2) : SentOnce sess mime t r where
  few := by rw [ht]; exact Nat.le_succ 1
  again _ _ h := by cases ht.symm.trans h
  carries := by
    rw [ht]
    exact List.forall_mem_singleton.mpr hcarries
  ok_iff := by
    rw [ht, hr]
    refine ⟨fun h => ⟨x, rfl, h⟩, fun ⟨y, hy, h⟩ => ?_⟩
    obtain rfl : x = y := Option.some.inj hy
    exact h

theorem sentOnce_of_answered {r : Except SyncError Unit}
    (h : sess.Answered (Attempt sess.account.takesMailDocuments mime) t o)
    (hr : r = .ok () ↔ o = .ok ()) : SentOnce sess mime t r := by
  cases h with
  | @once before asked _ unposted attempt =>
    obtain ⟨q, reply, hasked, hcarries, rfl⟩ := attempt
    refine .of_one (x := (q, reply)) ?_ hcarries (hr.trans outcome_eq_ok_iff)
    rw [exchangesOf_append, unposted, hasked]
    rfl
  | @twice before asked handshake between again f _ unposted attempt demands may succeeds about
      quiet retry =>
    obtain ⟨q, reply, hasked, hcarries, hf⟩ := attempt
    obtain ⟨q', reply', hagain, hcarries', rfl⟩ := retry
    have hbefore : exchangesOf command (before ++ asked) = [(q, reply)] := by
      rw [exchangesOf_append, unposted, hasked]
      rfl
    have hafter : exchangesOf command (between ++ again) = [(q', reply')] := by
      rw [exchangesOf_append, quiet, hagain]
      rfl
    have ht : exchangesOf command (before ++ (asked ++ (handshake ++ (between ++ again)))) =
        [(q, reply), (q', reply')] := by
      rw [← List.append_assoc, exchangesOf_append, hbefore, exchangesOf_append,
        about command (by decide), hafter]
      rfl
    exact {
      few := by rw [ht]; exact Nat.le_refl 2
      again := fun x y hxy => by
        obtain ⟨rfl, hy⟩ := List.cons.inj (ht.symm.trans hxy)
        obtain ⟨rfl, -⟩ := List.cons.inj hy
        exact ⟨demands_of_outcome hf.symm demands, may, before ++ asked, handshake,
          between ++ again, (List.append_assoc ..).symm, hbefore, hafter, succeeds⟩
      carries := by
        rw [ht]
        exact List.forall_mem_cons.mpr ⟨hcarries, List.forall_mem_singleton.mpr hcarries'⟩
      ok_iff := by
        rw [ht, hr, outcome_eq_ok_iff]
        refine ⟨fun h => ⟨_, rfl, h⟩, fun ⟨y, hy, h⟩ => ?_⟩
        obtain rfl : (q', reply') = y := Option.some.inj hy
        exact h }

theorem sentOnce_of_unanswered {e : SyncError}
    (h : sess.Unanswered (Attempt sess.account.takesMailDocuments mime) t) :
    SentOnce sess mime t (.error e) := by
  cases h with
  | unasked unposted =>
    have ht : exchangesOf command t = [] := unposted command
    exact {
      few := by rw [ht]; exact Nat.zero_le 2
      again := fun x y hxy => by cases ht.symm.trans hxy
      carries := by
        rw [ht]
        exact List.forall_mem_nil _
      ok_iff := by
        rw [ht]
        exact iff_of_false nofun fun ⟨x, hx, _⟩ => nomatch hx }
  | undone unposted attempt demands about =>
    obtain ⟨q, reply, hasked, hcarries, hf⟩ := attempt
    refine .of_one (x := (q, reply)) ?_ hcarries (iff_of_false nofun fun h => ?_)
    · rw [exchangesOf_append, unposted, exchangesOf_append, hasked, about command (by decide)]
      rfl
    · cases (outcome_eq_ok_iff.mpr h).symm.trans hf.symm

end

/-- Whatever the server, the storage and whoever else is at work answer, mail is sent once. -/
theorem mail_is_sent_once (sess : Session) {mime : Bytes} (h : mime.length < 2 ^ 32) :
    (Client.send sess mime).run.Always (SentOnce sess mime) := by
  have hexchange : (sess.exchange (exchange sess.settings mime true)).Always
      (sess.Answered (Attempt sess.account.takesMailDocuments mime))
      (sess.Unanswered (Attempt sess.account.takesMailDocuments mime)) := by
    refine sess.always_exchange ?_
    rintro account ⟨key, rfl⟩
    exact always_exchange sess.settings true _ h
  have hsend : (Client.send sess mime).Always (fun t r => SentOnce sess mime t (.ok r))
      fun t => ∀ e, SentOnce sess mime t (.error e) := by
    refine (hexchange.mono (fun _ _ ht => ht) fun t ht e => sentOnce_of_unanswered ht).bind ?_
    intro t o ht
    rw [← List.append_nil t] at ht
    cases o with
    | ok => exact sentOnce_of_answered ht (iff_of_true rfl rfl)
    | error f => exact fun e => sentOnce_of_answered ht (iff_of_false nofun nofun)
  refine Program.Always.mono hsend fun t r hr => ?_
  cases r with
  | ok => exact hr
  | error e => exact hr e

/-- A server that demands the handshake before it takes the mail. -/
def demanding : Script Mailbox.Memory where
  replies := [.ok ⟨449, []⟩,
    .ok ⟨200, (DevicePolicy.responseDocument 1 (some "temporary")).encode⟩,
    .ok ⟨200, (DevicePolicy.responseDocument 1 (some "final")).encode⟩, .ok ⟨200, []⟩]
  meanwhile := []
  id := "id"

/-- The mail is submitted twice and has been sent once. -/
theorem demanding_is_sent_once :
    ([72, 105] : Bytes).length < 2 ^ 32 ∧
    ((Client.send .sample [72, 105]).runIn demanding.surroundings .inbox).1 = .ok () ∧
    ∃ x y, exchangesOf command ((Client.send .sample [72, 105]).trace demanding.surroundings
        .inbox) = [x, y] ∧
      Demands true x.2 ∧ Confirms true y.2 := by
  have hlength : ([72, 105] : Bytes).length < 2 ^ 32 := by decide
  have h := (mail_is_sent_once .sample hlength).run demanding.surroundings .inbox
  have hok : ((Client.send .sample [72, 105]).runIn demanding.surroundings .inbox).1 = .ok () := rfl
  obtain ⟨x, y, hxy⟩ : ∃ x y, exchangesOf command ((Client.send .sample [72, 105]).trace
      demanding.surroundings .inbox) = [x, y] := ⟨_, _, rfl⟩
  obtain ⟨z, hz, hconfirms⟩ := h.ok_iff.mp hok
  refine ⟨hlength, hok, x, y, hxy, (h.again x y hxy).1, ?_⟩
  obtain rfl : y = z := Option.some.inj ((congrArg List.getLast? hxy).symm.trans hz)
  exact hconfirms

end Submission
end MailSync
