import Mathlib.Data.List.DropRight
import MailSync.Text.Blank
import MailSync.Text.Numeral

/-!
# Trimming, and numerals that are trimmed

Characters of the class go from either end; a text with none of them at its ends stays as it is. So
a number that was written in decimal is read back, by a reader that ignores blanks around it.
-/
namespace MailSync.Text

section
variable {p : Char → Bool} {c d : Char} {cs : List Char}

theorem stripEnds_eq (p : Char → Bool) (cs : List Char) :
    stripEnds p cs = (cs.dropWhile p).rdropWhile p := rfl

theorem stripEnds_cons (hc : p c = true) (cs : List Char) :
    stripEnds p (c :: cs) = stripEnds p cs := by
  rw [stripEnds_eq, stripEnds_eq, List.dropWhile_cons_of_pos hc]

theorem stripEnds_concat (hc : p c = true) (cs : List Char) :
    stripEnds p (cs ++ [c]) = stripEnds p cs := by
  rw [stripEnds_eq, stripEnds_eq, List.dropWhile_append, List.dropWhile_cons_of_pos hc]
  cases hrest : cs.dropWhile p with
  | nil => rfl
  | cons e es => exact List.rdropWhile_concat_pos p (e :: es) c hc

theorem stripEnds_of_ends (hc : p c = false) (hd : p d = false) (cs : List Char) :
    stripEnds p (c :: (cs ++ [d])) = c :: (cs ++ [d]) := by
  rw [stripEnds_eq, List.dropWhile_cons_of_neg (Bool.eq_false_iff.mp hc), ← List.cons_append]
  exact List.rdropWhile_concat_neg p (c :: cs) d (Bool.eq_false_iff.mp hd)

theorem stripEnds_of_forall (h : ∀ c ∈ cs, p c = false) : stripEnds p cs = cs := by
  have hfront : cs.dropWhile p = cs :=
    List.dropWhile_eq_self_iff.mpr fun hl => Bool.eq_false_iff.mp (h _ (List.getElem_mem hl))
  have hback : cs.rdropWhile p = cs :=
    List.rdropWhile_eq_self_iff.mpr fun hl => Bool.eq_false_iff.mp (h _ (List.getLast_mem hl))
  rw [stripEnds_eq, hfront, hback]

end

/-- No blanks stand at the ends. -/
def Trimmed (s : String) : Prop := trim s.toList = s.toList

instance (s : String) : Decidable (Trimmed s) := inferInstanceAs (Decidable (_ = _))

theorem isBlank_of_isDigit {c : Char} (h : c.isDigit = true) : isBlank c = false := by
  simp only [Char.isDigit, Bool.and_eq_true, decide_eq_true_eq] at h
  have hlow : 48 ≤ c.toNat := UInt32.le_iff_toNat_le.mp h.1
  have hhigh : c.toNat ≤ 57 := UInt32.le_iff_toNat_le.mp h.2
  simp only [isBlank]
  grind

theorem isDigit_of_mem_toString {n : Nat} {c : Char} (h : c ∈ (toString n).toList) :
    c.isDigit = true := by
  have hdigits : (toString n).toList = Nat.toDigits 10 n := String.toList_ofList
  rw [hdigits] at h
  exact Nat.isDigit_of_mem_toDigits (by decide) (by decide) h

theorem natural?_toString (n : Nat) : natural? (toString n).toList = some n := by
  have hdigits : (toString n).toList = Nat.toDigits 10 n := String.toList_ofList
  have hne : Nat.toDigits 10 n ≠ [] := List.ne_nil_of_length_pos Nat.length_toDigits_pos
  have hall : ∀ c ∈ Nat.toDigits 10 n, c.isDigit = true := fun c hc =>
    isDigit_of_mem_toString (hdigits ▸ hc)
  have hvalue : digitsValue? (Nat.toDigits 10 n) = some n := by
    rw [digitsValue?, if_pos ⟨hne, List.all_eq_true.mpr hall⟩, Nat.ofDigitChars_ten_toDigits]
  rw [hdigits]
  -- A plus sign is no digit.
  unfold natural?
  split
  · next cs heq => exact absurd (hall '+' (heq ▸ List.mem_cons_self)) (by decide)
  · exact hvalue

/-- A number is read back from its digits, trimmed or not. -/
theorem uint32?_trimString_toString (n : UInt32) :
    uint32? (trimString (toString n.toNat)) = some n := by
  have htrim : trim (toString n.toNat).toList = (toString n.toNat).toList :=
    stripEnds_of_forall fun _ hc => isBlank_of_isDigit (isDigit_of_mem_toString hc)
  have hbelow : (some n.toNat).filter (· < UInt32.size) = some n.toNat :=
    Option.filter_some_pos (decide_eq_true n.toNat_lt_size)
  rw [trimString, htrim, String.ofList_toList, uint32?, naturalBelow?, natural?_toString, hbelow,
    Option.map_some, UInt32.ofNat_toNat]

end MailSync.Text
