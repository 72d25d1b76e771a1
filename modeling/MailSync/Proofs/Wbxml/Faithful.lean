import MailSync.Proofs.Text.Trimming
import MailSync.Proofs.Wbxml.RoundTrip

/-!
# Documents read back as they are

Elements that come back from the wire unchanged: every tag and value can be written, no text has a
NUL character, and the levels are few enough. Whether a document is one of them follows its shape,
one lemma for each way to build an element.
-/
namespace MailSync.Wbxml
open Text (NoNul)

namespace Element

/-- Read back as it was written, as part of a document too, with at most so many levels below. -/
structure Faithful (levels : Nat) (e : Element) : Prop where
  writable : e.Writable
  plain : e.withoutNul = e
  height_le : e.height ≤ levels

variable {n : Nat} {tag : Tag} (htag : tag.Writable)

theorem Faithful.decode_encode_eq {e : Element} (h : e.Faithful maxDepth) :
    decode e.encode = .ok e := by
  rw [h.writable.decode_eq, readBack, if_pos (Nat.lt_succ_of_le h.height_le), h.plain]
  rfl

theorem Faithful.mono {m : Nat} {e : Element} (h : e.Faithful n) (hle : n ≤ m) : e.Faithful m :=
  ⟨h.writable, h.plain, h.height_le.trans hle⟩

include htag

theorem faithful_empty : (Element.empty tag).Faithful n :=
  ⟨⟨htag, nofun, trivial⟩, rfl, Nat.zero_le n⟩

theorem faithful_text {s : String} (h : NoNul s) : (Element.text tag s).Faithful n := by
  refine ⟨⟨htag, ?_, trivial⟩, ?_, Nat.zero_le n⟩
  · rintro v ⟨⟩
    trivial
  · exact congrArg (Element.text tag) h.withoutNul_eq

theorem faithful_number (k : UInt32) : (Element.number tag k).Faithful n :=
  faithful_text htag fun h => absurd (Text.isDigit_of_mem_toString h) (by decide)

theorem faithful_bytes {bs : Bytes} (h : bs.length < 2 ^ 32) :
    (Element.bytes tag bs).Faithful n := by
  refine ⟨⟨htag, ?_, trivial⟩, rfl, Nat.zero_le n⟩
  rintro v ⟨⟩
  exact h

theorem faithful_node {es : List Element} (h : ∀ e ∈ es, e.Faithful n) :
    (Element.node tag es).Faithful (n + 1) := by
  have hall : WritableAll es ∧ withoutNulAll es = es ∧ heightAll es ≤ n + 1 := by
    induction es with
    | nil => exact ⟨trivial, rfl, Nat.zero_le _⟩
    | cons e es ih =>
      have he := h e List.mem_cons_self
      obtain ⟨hwritable, hplain, hheight⟩ := ih fun c hc => h c (List.mem_cons_of_mem e hc)
      refine ⟨⟨he.writable, hwritable⟩, ?_, ?_⟩
      · rw [withoutNulAll, he.plain, hplain]
      · exact heightAll_cons_le.mpr ⟨Nat.lt_succ_of_le he.height_le, hheight⟩
  obtain ⟨hwritable, hplain, hheight⟩ := hall
  have hvalue : ∀ v ∈ (none : Option Value), v.Writable := fun v hv =>
    absurd hv (Option.not_mem_none v)
  exact ⟨⟨htag, hvalue, hwritable⟩, congrArg (Element.node tag) hplain, hheight⟩

end Element
end MailSync.Wbxml
