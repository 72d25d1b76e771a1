import MailSync.Proofs.Wbxml.Canonical
import MailSync.Proofs.Wbxml.Faithful

/-!
# What the wire takes from a document

The bytes of a document are those of the same document without the NUL characters of its texts, and
that one comes back as it is. So whoever reads a document reads the one whose texts were stripped
first, one lemma for each way to build an element.
-/
namespace MailSync.Text

theorem noNul_withoutNul (s : String) : NoNul (withoutNul s) := by
  intro hnul
  rw [withoutNul, String.toList_ofList] at hnul
  exact absurd rfl (of_decide_eq_true (List.mem_filter.mp hnul).2)

end MailSync.Text

namespace MailSync.Wbxml.Element

theorem encode_withoutNul (e : Element) : e.withoutNul.encode = e.encode := by
  rw [encode, e.encodeFrom_withoutNul, encode]

/-- A document comes back as its stripped form, if that one comes back as it is. -/
theorem decode_encode_of_withoutNul {e : Element} (h : e.withoutNul.Faithful maxDepth) :
    decode e.encode = .ok e.withoutNul := by
  rw [← e.encode_withoutNul]
  exact h.decode_encode_eq

theorem withoutNul_text (tag : Tag) (s : String) :
    (text tag s).withoutNul = text tag (Text.withoutNul s) := rfl

/-- A number has no NUL character to lose. -/
theorem withoutNul_number (tag : Tag) (n : UInt32) : (number tag n).withoutNul = number tag n := by
  have hplain : Text.NoNul (toString n.toNat) := fun h =>
    absurd (Text.isDigit_of_mem_toString h) (by decide)
  rw [number, withoutNul_text, hplain.withoutNul_eq]

theorem withoutNulAll_eq_map (es : List Element) : withoutNulAll es = es.map withoutNul := by
  induction es with
  | nil => rfl
  | cons e es ih => rw [withoutNulAll, ih, List.map_cons]

theorem withoutNul_node (tag : Tag) (es : List Element) :
    (node tag es).withoutNul = node tag (es.map withoutNul) :=
  congrArg (node tag) (withoutNulAll_eq_map es)

end MailSync.Wbxml.Element
