import Mathlib.Tactic.SplitIfs
import MailSync.Text.Utf8

/-!
# Texts as bytes

Reading the bytes of a text gives the text back. Only NUL has a zero byte, so to take the zero bytes
out of the bytes of a text is to take its NUL characters out.
-/
namespace MailSync.Text

theorem ofBytes?_toBytes (s : String) : ofBytes? (toBytes s) = some s := by
  have h : (⟨(toBytes s).toArray⟩ : ByteArray) = s.toByteArray := rfl
  rw [ofBytes?, h, String.fromUTF8?, dif_pos s.isValidUTF8]
  rfl

theorem toBytes_ofList (cs : List Char) :
    toBytes (String.ofList cs) = cs.flatMap String.utf8EncodeChar := by
  rw [toBytes, String.toByteArray_ofList, List.utf8Encode]
  simp

theorem toBytes_eq (s : String) : toBytes s = s.toList.flatMap String.utf8EncodeChar := by
  rw [← toBytes_ofList, String.ofList_toList]

/-- A text without its NUL characters. -/
def withoutNul (s : String) : String := String.ofList (s.toList.filter (· ≠ '\x00'))

/-- The texts that are read back from a document as they are. -/
def NoNul (s : String) : Prop := '\x00' ∉ s.toList

instance (s : String) : Decidable (NoNul s) := inferInstanceAs (Decidable (¬_))

theorem NoNul.withoutNul_eq {s : String} (h : NoNul s) : withoutNul s = s := by
  have hkept : s.toList.filter (· ≠ '\x00') = s.toList :=
    List.filter_eq_self.mpr fun c hc => decide_eq_true fun hnul => h (hnul ▸ hc)
  rw [withoutNul, hkept, String.ofList_toList]

theorem noNul_append {s t : String} : NoNul (s ++ t) ↔ NoNul s ∧ NoNul t := by
  rw [NoNul, String.toList_append, List.mem_append, not_or]
  rfl

theorem filter_utf8EncodeChar (c : Char) :
    (String.utf8EncodeChar c).filter (· ≠ 0) =
      if c ≠ '\x00' then String.utf8EncodeChar c else [] := by
  by_cases h : c = '\x00'
  · subst h
    rfl
  · rw [if_pos h, List.filter_eq_self]
    intro b hb
    have hv : c.val.toNat ≠ 0 := fun hv => h (Char.ext (UInt32.toNat_inj.mp hv))
    have hz : UInt8.toNat 0 = 0 := rfl
    rw [decide_eq_true_eq, Ne, ← UInt8.toNat_inj]
    -- One case for each length; a byte of a longer form has its top bit set.
    simp only [String.utf8EncodeChar] at hb
    split_ifs at hb <;> simp only [List.mem_cons, List.not_mem_nil, or_false] at hb
    · rw [hb, UInt8.toNat_ofNat']
      omega
    · rcases hb with rfl | rfl <;> rw [UInt8.toNat_ofNat'] <;> omega
    · rcases hb with rfl | rfl | rfl <;> rw [UInt8.toNat_ofNat'] <;> omega
    · rcases hb with rfl | rfl | rfl | rfl <;> rw [UInt8.toNat_ofNat'] <;> omega

theorem filter_toBytes (s : String) : (toBytes s).filter (· ≠ 0) = toBytes (withoutNul s) := by
  rw [toBytes_eq, withoutNul, toBytes_ofList]
  induction s.toList with
  | nil => rfl
  | cons c cs ih =>
    rw [List.flatMap_cons, List.filter_append, ih, filter_utf8EncodeChar, List.filter_cons]
    by_cases h : c = '\x00' <;> simp [h]

/-- A text without NUL characters has no zero byte. -/
theorem ne_zero_of_mem_toBytes_withoutNul {s : String} {b : UInt8}
    (h : b ∈ toBytes (withoutNul s)) : b ≠ 0 := by
  rw [← filter_toBytes] at h
  simpa using (List.mem_filter.mp h).2

end MailSync.Text
