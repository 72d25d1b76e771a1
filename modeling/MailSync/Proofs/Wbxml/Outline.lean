import MailSync.Wbxml.Element

/-!
# Outlines of documents

The outline of a document has every element of it, with those under certain tags emptied. What is
found under any other tag is the outline of what was found before, so whoever never looks into the
emptied elements reads the same.
-/
namespace MailSync.Wbxml

mutual

/-- An element with all that is sealed by its tag taken out, on every level. -/
def Element.outline (isSealed : Tag → Bool) : Element → Element
  | ⟨tag, value, children⟩ =>
    if isSealed tag then .empty tag else ⟨tag, value, outlineAll isSealed children⟩

def outlineAll (isSealed : Tag → Bool) : List Element → List Element
  | [] => []
  | e :: es => e.outline isSealed :: outlineAll isSealed es

end

variable {isSealed : Tag → Bool}

theorem outlineAll_eq_map (es : List Element) :
    outlineAll isSealed es = es.map (Element.outline isSealed) := by
  induction es with
  | nil => rfl
  | cons e es ih => rw [outlineAll, ih, List.map_cons]

namespace Element

@[simp] theorem tag_outline (e : Element) : (e.outline isSealed).tag = e.tag := by
  obtain ⟨tag, value, children⟩ := e
  rw [outline]
  split <;> rfl

variable {e : Element} {tag : Tag}

theorem outline_of_not_sealed (h : isSealed e.tag = false) :
    e.outline isSealed = ⟨e.tag, e.value, e.children.map (outline isSealed)⟩ := by
  obtain ⟨tag, value, children⟩ := e
  rw [outline, if_neg (Bool.eq_false_iff.mp h), outlineAll_eq_map]

theorem children_outline (h : isSealed e.tag = false) :
    (e.outline isSealed).children = e.children.map (outline isSealed) := by
  rw [outline_of_not_sealed h]

theorem text?_outline (h : isSealed e.tag = false) : (e.outline isSealed).text? = e.text? := by
  rw [outline_of_not_sealed h, text?, text?]

theorem find?_outline (h : isSealed e.tag = false) (tag : Tag) :
    (e.outline isSealed).find? tag = (e.find? tag).map (outline isSealed) := by
  have htest : ((fun c : Element => decide (c.tag = tag)) ∘ outline isSealed) =
      fun c => decide (c.tag = tag) := by
    funext c
    simp only [Function.comp_apply, tag_outline]
  rw [find?, children_outline h, List.find?_map, htest, find?]

theorem tag_of_find? {c : Element} (h : e.find? tag = some c) : c.tag = tag := by
  have htest := List.find?_some (p := fun c : Element => decide (c.tag = tag)) h
  exact of_decide_eq_true htest

/-- A text under a tag that is not sealed is kept. -/
theorem childText?_outline (h : isSealed e.tag = false) (ht : isSealed tag = false) :
    (e.outline isSealed).childText? tag = e.childText? tag := by
  rw [childText?, childText?, find?_outline h]
  cases hc : e.find? tag with
  | none => rfl
  | some c => exact text?_outline ((tag_of_find? hc).symm ▸ ht)

theorem childNumber?_outline (h : isSealed e.tag = false) (ht : isSealed tag = false) :
    (e.outline isSealed).childNumber? tag = e.childNumber? tag := by
  rw [childNumber?, childNumber?, childText?_outline h ht]

end Element
end MailSync.Wbxml
