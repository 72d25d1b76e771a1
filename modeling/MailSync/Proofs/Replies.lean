import Mathlib.Tactic.SplitIfs
import MailSync.Collection.Document
import MailSync.Exchange
import MailSync.Hierarchy.Document

/-!
# What a reply comes to

A reply with the one good status is a document, or nothing if its body is empty. Whatever else comes
back is a failure, and no failure is judged to be a success.
-/
namespace MailSync
open Wbxml (Element)

namespace Verdict

theorem ofHttp?_eq_none_iff {status : UInt16} : ofHttp? status = none ↔ status = 200 := by
  unfold ofHttp?
  split_ifs with h
  · exact iff_of_true rfl h
  all_goals exact iff_of_false nofun h

theorem isOk_of_ofHttp? {status : UInt16} {v : Verdict} (h : ofHttp? status = some v) :
    v.isOk = false := by
  unfold ofHttp? at h
  split_ifs at h
  all_goals
    obtain rfl := Option.some.inj h
    rfl

theorem isOk_ofCommand (code : UInt32) : (ofCommand code).isOk = false := by
  unfold ofCommand ofGlobal?
  split_ifs <;> rfl

/-- The codes that demand the handshake. -/
theorem ofCommand_eq_provisioningRequired_iff {code : UInt32} :
    ofCommand code = .provisioningRequired ↔ code = 140 ∨ 142 ≤ code ∧ code ≤ 144 := by
  unfold ofCommand ofGlobal?
  simp only [UInt32.le_iff_toNat_le, ← UInt32.toNat_inj]
  split_ifs with hbusy hforbidden hdemand
  · refine iff_of_false nofun fun h => ?_
    simp only [UInt32.reduceToNat] at hbusy h
    omega
  · refine iff_of_false nofun fun h => ?_
    simp only [UInt32.reduceToNat] at hforbidden h
    omega
  · exact iff_of_true rfl hdemand
  · exact iff_of_false nofun hdemand

theorem ofHttp?_eq_provisioningRequired_iff {status : UInt16} :
    ofHttp? status = some .provisioningRequired ↔ status = 449 := by
  unfold ofHttp?
  split_ifs with hok hunauthorized hforbidden hdemand
  · exact iff_of_false nofun fun h => absurd (hok.symm.trans h) (by decide)
  · exact iff_of_false nofun fun h => absurd (hunauthorized.symm.trans h) (by decide)
  · exact iff_of_false nofun fun h => absurd (hforbidden.symm.trans h) (by decide)
  · exact iff_of_true rfl hdemand
  all_goals exact iff_of_false nofun hdemand

end Verdict

theorem Hierarchy.isOk_verdict {status : UInt32} (h : verdict status ≠ .ok) :
    (verdict status).isOk = false := by
  unfold verdict at h ⊢
  split_ifs at h ⊢
  · exact absurd rfl h
  · rfl
  · rfl
  · exact Verdict.isOk_ofCommand status

theorem Collection.isOk_verdict {status : UInt32} (h : verdict status ≠ .ok) :
    (verdict status).isOk = false := by
  unfold verdict at h ⊢
  split_ifs at h ⊢
  · exact absurd rfl h
  · rfl
  · rfl
  · rfl
  · exact Verdict.isOk_ofCommand status

namespace Exchange

/-- What a reply is read as: no reply, a bad status, no body, a document, or a body that is none. -/
inductive Reads (command : String) :
    Except TransportError Reply → Except Failure (Option Element) → Prop
  | unanswered (e : TransportError) : Reads command (.error e) (.error ⟨.network e.fault, e.message⟩)
  | refused {status : UInt16} {v : Verdict} (body : Bytes)
      (judged : Verdict.ofHttp? status = some v) :
      Reads command (.ok ⟨status, body⟩) (.error ⟨v, s!"HTTP {status.toNat} for {command}"⟩)
  | empty : Reads command (.ok ⟨200, []⟩) (.ok none)
  | document {body : Bytes} {root : Element} (decodes : Wbxml.decode body = .ok root) :
      Reads command (.ok ⟨200, body⟩) (.ok (some root))
  | garbled {body : Bytes} {e : Wbxml.Error} (undecoded : Wbxml.decode body = .error e) :
      Reads command (.ok ⟨200, body⟩) (.error (.malformed s!"{command} response: {e.message}"))

theorem reads_documentOf (command : String) (reply : Except TransportError Reply) :
    Reads command reply (documentOf command reply) := by
  obtain e | ⟨status, body⟩ := reply
  · exact .unanswered e
  rw [documentOf]
  split
  · next v hv => exact .refused body hv
  · next hstatus =>
    obtain rfl := Verdict.ofHttp?_eq_none_iff.mp hstatus
    split_ifs with hbody
    · obtain rfl := hbody
      exact .empty
    · split
      · next root hroot => exact .document hroot
      · next e he => exact .garbled he

section
variable {command : String} {reply : Except TransportError Reply} {f : Failure} {root : Element}

theorem isOk_of_documentOf (h : documentOf command reply = .error f) : f.verdict.isOk = false := by
  have hreads := reads_documentOf command reply
  rw [h] at hreads
  cases hreads with
  | unanswered => rfl
  | refused _ judged => exact Verdict.isOk_of_ofHttp? judged
  | garbled => rfl

/-- Before its document is looked at, a reply can demand the handshake by its status only. -/
theorem eq_449_of_documentOf (h : documentOf command reply = .error f)
    (hf : f.verdict = .provisioningRequired) : ∃ body, reply = .ok ⟨449, body⟩ := by
  have hreads := reads_documentOf command reply
  rw [h] at hreads
  cases hreads with
  | unanswered => cases hf
  | refused body judged =>
    obtain rfl := Verdict.ofHttp?_eq_provisioningRequired_iff.mp (judged.trans (congrArg some hf))
    exact ⟨body, rfl⟩
  | garbled => cases hf

theorem documentOf_eq_none_iff : documentOf command reply = .ok none ↔ reply = .ok ⟨200, []⟩ := by
  constructor
  · intro h
    have hreads := reads_documentOf command reply
    rw [h] at hreads
    cases hreads with
    | empty => rfl
  · rintro rfl
    rfl

theorem documentOf_eq_some_iff : documentOf command reply = .ok (some root) ↔
    ∃ body, reply = .ok ⟨200, body⟩ ∧ Wbxml.decode body = .ok root := by
  constructor
  · intro h
    have hreads := reads_documentOf command reply
    rw [h] at hreads
    cases hreads with
    | document decodes => exact ⟨_, rfl, decodes⟩
  · rintro ⟨body, rfl, hroot⟩
    have hbody : body ≠ [] := by
      rintro rfl
      cases hroot
    have hstatus : Verdict.ofHttp? (Reply.mk 200 body).status = none :=
      Verdict.ofHttp?_eq_none_iff.mpr rfl
    simp only [documentOf, hstatus, if_neg hbody, hroot]

end

theorem eq_ok_of_ofDocument {α : Type} {x : Except DocumentError α} {a : α}
    (h : ofDocument x = .ok a) : x = .ok a := by
  cases x with
  | ok b => exact congrArg _ (Except.ok.inj h)
  | error e => cases h

theorem eq_some_of_required {command : String} {document : Option Element} {root : Element}
    (h : required command document = .ok root) : document = some root := by
  cases document with
  | none => cases h
  | some r => exact congrArg _ (Except.ok.inj h)

end Exchange
end MailSync
