import Mathlib.Data.Option.Basic
import MailSync.Proofs.Wbxml.Faithful

/-!
# Elements made of parts

Many elements have at most one child under each of certain tags, in a fixed order. What is found
under a tag is then the part of that name, whatever the other parts are.
-/
namespace MailSync.Wbxml
open Text (NoNul)

/-- The child that an element may have under a tag. -/
structure Part where
  tag : Tag
  child? : Option Element

namespace Part

def text (tag : Tag) (content : Option String) : Part := ⟨tag, content.map (.text tag)⟩

/-- The children of an element that has these parts. -/
def children (ps : List Part) : List Element := ps.filterMap Part.child?

/-- The child under a tag. -/
def under? : List Part → Tag → Option Element
  | [], _ => none
  | p :: ps, tag => if p.tag = tag then p.child? else under? ps tag

/-- Each part is under its own tag, which no other part has. -/
structure Proper (ps : List Part) : Prop where
  tag_eq : ∀ p ∈ ps, ∀ e ∈ p.child?, e.tag = p.tag
  nodup : (ps.map Part.tag).Nodup

theorem tag_of_mem_text (tag : Tag) (content : Option String) :
    ∀ e ∈ (text tag content).child?, e.tag = (text tag content).tag := by
  cases content <;> rintro _ ⟨⟩
  rfl

theorem children_nil : children [] = [] := rfl

theorem children_cons (p : Part) (ps : List Part) :
    children (p :: ps) = p.child?.toList ++ children ps := by
  obtain ⟨tag, _ | e⟩ := p <;> rfl

theorem mem_children {ps : List Part} {e : Element} :
    e ∈ children ps ↔ ∃ p ∈ ps, e ∈ p.child? := List.mem_filterMap

theorem find?_child {p : Part} (h : ∀ e ∈ p.child?, e.tag = p.tag) (tag : Tag) :
    p.child?.toList.find? (·.tag = tag) = if p.tag = tag then p.child? else none := by
  obtain ⟨_, _ | e⟩ := p
  · exact (ite_self none).symm
  · rw [Option.toList_some, List.find?_singleton, h e rfl]
    simp only [decide_eq_true_eq]

theorem under?_eq_none {ps : List Part} {tag : Tag} (h : tag ∉ ps.map Part.tag) :
    under? ps tag = none := by
  induction ps with
  | nil => rfl
  | cons p ps ih =>
    obtain ⟨hp, hps⟩ := not_or.mp (mt List.mem_cons.mpr h)
    rw [under?, if_neg (Ne.symm hp), ih hps]

/-- What is found under a tag is the part of that name. -/
theorem Proper.find?_node {ps : List Part} (h : Proper ps) (owner tag : Tag) :
    (Element.node owner (children ps)).find? tag = under? ps tag := by
  obtain ⟨htag, hnodup⟩ := h
  change (children ps).find? (·.tag = tag) = _
  induction ps with
  | nil => rfl
  | cons p ps ih =>
    obtain ⟨hp, hnodup⟩ := List.nodup_cons.mp hnodup
    have htail := ih (fun q hq => htag q (List.mem_cons_of_mem p hq)) hnodup
    rw [children_cons, List.find?_append, find?_child (htag p List.mem_cons_self), htail, under?]
    by_cases ht : p.tag = tag
    · -- No later part has the tag.
      rw [if_pos ht, if_pos ht, under?_eq_none (ht ▸ hp), Option.or_none]
    · rw [if_neg ht, if_neg ht, Option.none_or]

theorem faithful_text {tag : Tag} {content : Option String} {n : Nat} (htag : tag.Writable)
    (h : ∀ s ∈ content, NoNul s) : ∀ e ∈ (text tag content).child?, e.Faithful n :=
  Option.forall_mem_map.mpr fun s hs => Element.faithful_text htag (h s hs)

theorem faithful_node {ps : List Part} {owner : Tag} {n : Nat} (howner : owner.Writable)
    (h : ∀ p ∈ ps, ∀ e ∈ p.child?, e.Faithful n) :
    (Element.node owner (children ps)).Faithful (n + 1) := by
  refine Element.faithful_node howner fun e he => ?_
  obtain ⟨p, hp, hep⟩ := mem_children.mp he
  exact h p hp e hep

end Part

/-- An optional text is found as it is. -/
theorem Element.childText?_of_find? {e : Element} {tag t : Tag} {o : Option String}
    (h : e.find? t = o.map (.text tag)) : e.childText? t = o := by
  rw [childText?, h]
  cases o <;> rfl

/-- A number is found as it is, whatever the text for it. -/
theorem Element.childNumber?_of_find? {e : Element} {tag t : Tag} {n : UInt32}
    (h : e.find? t = some (.number tag n)) : e.childNumber? t = some n := by
  have htext : e.childText? t = some (toString n.toNat) := childText?_of_find? h
  rw [childNumber?, htext, Option.bind_some, Text.uint32?_trimString_toString]

end MailSync.Wbxml
