import Mathlib.Algebra.Group.Nat.Defs
import MailSync.Wbxml.MultiByte

/-!
# Multi-byte integers, written and read

Writing peels groups of seven bits off a number and reading puts them together again: to read the
groups above the last one is to have read the number without its last group. No number of 32 bits
takes more than five bytes, so reading what was written gives the number, and the bytes behind it.

Any other bytes are read by what their groups make: the number up to the first byte that ends one,
if that byte is among the first five and the number has 32 bits.
-/
namespace MailSync.Wbxml.MultiByte

/-- A byte that carries a group and says that another one follows. -/
theorem continued_byte {b : UInt8} (h : b.toNat < 128) :
    (b ||| 0x80) &&& 0x80 ≠ 0 ∧ (b ||| 0x80) &&& 0x7F = b := by
  have hb : ∀ v : BitVec 8, v.toNat < 128 →
      (UInt8.ofBitVec v ||| 0x80) &&& 0x80 ≠ 0 ∧
        (UInt8.ofBitVec v ||| 0x80) &&& 0x7F = UInt8.ofBitVec v := by decide
  exact hb b.toBitVec h

/-- A byte that carries the last group. -/
theorem last_byte {b : UInt8} (h : b.toNat < 128) : b &&& 0x80 = 0 ∧ b &&& 0x7F = b := by
  have hb : ∀ v : BitVec 8, v.toNat < 128 →
      UInt8.ofBitVec v &&& 0x80 = 0 ∧ UInt8.ofBitVec v &&& 0x7F = UInt8.ofBitVec v := by decide
  exact hb b.toBitVec h

theorem toNat_group (v : UInt32) : (v &&& 0x7F).toUInt8.toNat = v.toNat % 128 := by
  have h : (0x7F : UInt32).toNat = 2 ^ 7 - 1 := rfl
  rw [UInt32.toNat_toUInt8, UInt32.toNat_and, h, Nat.and_two_pow_sub_one_eq_mod]
  omega

theorem toNat_group_lt (v : UInt32) : (v &&& 0x7F).toUInt8.toNat < 128 := by
  rw [toNat_group]
  omega

theorem toNat_shiftRight_seven (v : UInt32) : (v >>> 7).toNat = v.toNat / 128 := by
  rw [UInt32.toNat_shiftRight]
  exact Nat.shiftRight_eq_div_pow v.toNat 7

theorem toNat_shiftRight_seven_lt {v : UInt32} {n : Nat} (h : v.toNat < 2 ^ (7 * (n + 1))) :
    (v >>> 7).toNat < 2 ^ (7 * n) := by
  rw [toNat_shiftRight_seven, Nat.div_lt_iff_lt_mul (by decide)]
  rwa [Nat.mul_succ, Nat.pow_add] at h

/-- Four groups are enough for what stands above the last one. -/
theorem toNat_shiftRight_seven_lt_four (v : UInt32) : (v >>> 7).toNat < 2 ^ (7 * 4) :=
  toNat_shiftRight_seven_lt (Nat.lt_trans v.toNat_lt (by decide))

theorem shiftRight_le_shiftable (v : UInt32) : ¬v >>> 7 > shiftable := by
  have h := v.toNat_lt
  have hs : shiftable.toNat = 2 ^ 25 - 1 := rfl
  rw [gt_iff_lt, UInt32.lt_iff_toNat_lt, toNat_shiftRight_seven, hs]
  omega

/-- A number is what its last group makes of those above it. -/
theorem shift_or_group (v : UInt32) : (v >>> 7) <<< 7 ||| (v &&& 0x7F).toUInt8.toUInt32 = v := by
  have h := v.toNat_lt
  have hl : ((v >>> 7) <<< 7).toNat = 2 ^ 7 * (v.toNat / 128) := by
    rw [UInt32.toNat_shiftLeft, toNat_shiftRight_seven]
    change (v.toNat / 128) <<< 7 % 2 ^ 32 = _
    rw [Nat.shiftLeft_eq]
    omega
  rw [← UInt32.toNat_inj, UInt32.toNat_or, hl, UInt8.toNat_toUInt32, toNat_group,
    ← Nat.two_pow_add_eq_or_of_lt (Nat.mod_lt _ (by decide))]
  omega

theorem readGroups_cons {n : Nat} {v : UInt32} (b : UInt8) (h : ¬v > shiftable) (rest : Bytes) :
    readGroups (n + 1) v (b :: rest) =
      if b &&& 0x80 = 0 then .ok (v <<< 7 ||| (b &&& 0x7F).toUInt32, rest)
      else readGroups n (v <<< 7 ||| (b &&& 0x7F).toUInt32) rest := by
  rw [readGroups, if_neg h]

/-- To read the groups that were put in front of some bytes is to start there with the number. -/
theorem readGroups_higher (n : Nat) {v : UInt32} (h : v.toNat < 2 ^ (7 * n)) (tail : Bytes) :
    ∃ j ≤ n, ∀ m rest, readGroups (m + j) 0 (higher n v tail ++ rest) =
      readGroups m v (tail ++ rest) := by
  induction n generalizing v tail with
  | zero =>
    obtain rfl : v = 0 := UInt32.toNat_inj.mp (by simpa using h)
    exact ⟨0, Nat.le_refl 0, fun m rest => rfl⟩
  | succ n ih =>
    rw [higher]
    split
    · next hv =>
      subst hv
      exact ⟨0, Nat.zero_le _, fun m rest => rfl⟩
    · obtain ⟨hmore, hgroup⟩ := continued_byte (toNat_group_lt v)
      obtain ⟨j, hj, hr⟩ :=
        ih (toNat_shiftRight_seven_lt h) (((v &&& 0x7F).toUInt8 ||| 0x80) :: tail)
      refine ⟨j + 1, Nat.succ_le_succ hj, fun m rest => ?_⟩
      have hm : m + (j + 1) = m + 1 + j := by omega
      rw [hm, hr (m + 1) rest, List.cons_append, readGroups_cons _ (shiftRight_le_shiftable v),
        if_neg hmore, hgroup, shift_or_group]

/-- Reading undoes writing, whatever bytes follow. -/
theorem read_write (v : UInt32) (rest : Bytes) : read (write v ++ rest) = .ok (v, rest) := by
  obtain ⟨j, hj, hr⟩ :=
    readGroups_higher 4 (toNat_shiftRight_seven_lt_four v) [(v &&& 0x7F).toUInt8]
  obtain ⟨hlast, hgroup⟩ := last_byte (toNat_group_lt v)
  have hfuel : 5 = 4 - j + 1 + j := by omega
  rw [read, write, hfuel, hr, List.singleton_append, readGroups_cons _ (shiftRight_le_shiftable v),
    if_pos hlast, hgroup, shift_or_group]

theorem length_higher (n : Nat) (v : UInt32) (tail : Bytes) :
    tail.length ≤ (higher n v tail).length ∧ (higher n v tail).length ≤ tail.length + n := by
  induction n generalizing v tail with
  | zero => exact ⟨Nat.le_refl _, Nat.le_refl _⟩
  | succ n ih =>
    rw [higher]
    split
    · exact ⟨Nat.le_refl _, Nat.le_add_right _ _⟩
    · have hrest := ih (v >>> 7) (((v &&& 0x7F).toUInt8 ||| 0x80) :: tail)
      rw [List.length_cons] at hrest
      omega

/-- Writing ends because nothing is left of the number, and not for want of room. -/
theorem higher_add {n : Nat} {v : UInt32} (h : v.toNat < 2 ^ (7 * n)) (room : Nat) (tail : Bytes) :
    higher (n + room) v tail = higher n v tail := by
  induction n generalizing v tail with
  | zero =>
    obtain rfl : v = 0 := UInt32.toNat_inj.mp (by simpa using h)
    cases room <;> rfl
  | succ n ih => rw [Nat.succ_add, higher, higher, ih (toNat_shiftRight_seven_lt h)]

/-! ### Bytes that were not written here -/

/-- The byte carries the last group of a number. -/
def ends (b : UInt8) : Bool := b &&& 0x80 = 0

/-- A number with one group more. -/
def push (v : Nat) (b : UInt8) : Nat := v * 128 + b.toNat % 128

/-- The number that groups of seven bits make, the most significant first. -/
def value (bs : Bytes) : Nat := bs.foldl push 0

theorem le_foldl_push (v : Nat) (bs : Bytes) : v ≤ bs.foldl push v := by
  induction bs generalizing v with
  | nil => exact Nat.le_refl v
  | cons b bs ih =>
    have hv : v ≤ push v b := by
      unfold push
      omega
    exact Nat.le_trans hv (ih (push v b))

theorem foldl_push_lt {v n : Nat} (hv : v < 2 ^ n) (bs : Bytes) :
    bs.foldl push v < 2 ^ (n + 7 * bs.length) := by
  induction bs generalizing v n with
  | nil => exact hv
  | cons b bs ih =>
    have hpush : push v b < 2 ^ (n + 7) := by
      rw [push, Nat.pow_add]
      omega
    have hlength : n + 7 * (b :: bs).length = n + 7 + 7 * bs.length := by
      rw [List.length_cons]
      omega
    rw [hlength]
    exact ih hpush

/-- The shifts that are let through are those that drop no bit. -/
theorem toNat_shiftLeft_seven_iff (v : UInt32) :
    (v <<< 7).toNat = v.toNat * 2 ^ 7 ↔ ¬v > shiftable := by
  have h := v.toNat_lt
  have hs : shiftable.toNat = 2 ^ 25 - 1 := rfl
  have hshift : (v <<< 7).toNat = v.toNat * 2 ^ 7 % 2 ^ 32 := by
    rw [UInt32.toNat_shiftLeft, ← Nat.shiftLeft_eq]
    rfl
  rw [hshift, gt_iff_lt, UInt32.lt_iff_toNat_lt, hs]
  omega

/-- A byte that is taken in adds its group to the number, all of which is kept. -/
theorem toNat_take {v : UInt32} (h : ¬v > shiftable) (b : UInt8) :
    (v <<< 7 ||| (b &&& 0x7F).toUInt32).toNat = push v.toNat b := by
  have hgroup : (b &&& 0x7F).toUInt32.toNat = b.toNat % 2 ^ 7 := by
    rw [UInt8.toNat_toUInt32, UInt8.toNat_and]
    exact Nat.and_two_pow_sub_one_eq_mod b.toNat 7
  rw [UInt32.toNat_or, (toNat_shiftLeft_seven_iff v).mpr h, hgroup, Nat.mul_comm v.toNat,
    ← Nat.two_pow_add_eq_or_of_lt (Nat.mod_lt _ (by decide)), push, Nat.mul_comm]

/-- A number that cannot be shifted does not fit once there is another group. -/
theorem le_push_of_not_shiftable {v : UInt32} (h : v > shiftable) (b : UInt8) :
    2 ^ 32 ≤ push v.toNat b := by
  have hs : shiftable.toNat = 2 ^ 25 - 1 := rfl
  rw [gt_iff_lt, UInt32.lt_iff_toNat_lt, hs] at h
  unfold push
  omega

/-- A byte is taken in if the shift that makes room for its group drops no bit. -/
theorem readGroups_succ_cons (n : Nat) (v : UInt32) (b : UInt8) (rest : Bytes) :
    readGroups (n + 1) v (b :: rest) =
      if (v <<< 7).toNat = v.toNat * 2 ^ 7 then
        if ends b then .ok (v <<< 7 ||| (b &&& 0x7F).toUInt32, rest)
        else readGroups n (v <<< 7 ||| (b &&& 0x7F).toUInt32) rest
      else .error .integerOverflow := by
  by_cases h : v > shiftable
  · rw [readGroups, if_pos h, if_neg (mt (toNat_shiftLeft_seven_iff v).mp (not_not_intro h))]
  · rw [readGroups_cons b h, if_pos ((toNat_shiftLeft_seven_iff v).mpr h)]
    simp only [ends, decide_eq_true_eq]

/-- Bytes in which a number ends. The number is the one that the groups up to there make. -/
theorem readGroups_of_ends {bs : Bytes} {k : Nat} (h : bs.findIdx? ends = some k) (n : Nat)
    (v : UInt32) :
    readGroups n v bs =
      if k < n ∧ (bs.take (k + 1)).foldl push v.toNat < 2 ^ 32 then
        .ok (.ofNat ((bs.take (k + 1)).foldl push v.toNat), bs.drop (k + 1))
      else .error .integerOverflow := by
  induction bs generalizing k n v with
  | nil => cases h
  | cons b rest ih =>
    cases n with
    | zero => rw [readGroups, if_neg fun hk => Nat.not_lt_zero k hk.1]
    | succ n =>
      by_cases hv : v > shiftable
      · have hover := Nat.le_trans (le_push_of_not_shiftable hv b)
          (le_foldl_push (push v.toNat b) (rest.take k))
        rw [readGroups, if_pos hv, if_neg fun hk => Nat.not_lt.mpr hover hk.2]
      · rw [readGroups_cons b hv]
        rw [List.findIdx?_cons] at h
        by_cases hb : b &&& 0x80 = 0
        · have hends : ends b = true := decide_eq_true hb
          rw [if_pos hends] at h
          obtain rfl := Option.some.inj h
          have hfits : push v.toNat b < 2 ^ 32 := toNat_take hv b ▸ UInt32.toNat_lt _
          rw [if_pos hb]
          simp only [Nat.zero_add, List.take_succ_cons, List.take_zero, List.foldl_cons,
            List.foldl_nil, List.drop_succ_cons, List.drop_zero]
          rw [if_pos ⟨Nat.succ_pos n, hfits⟩, ← toNat_take hv b, UInt32.ofNat_toNat]
        · have hends : ends b = false := decide_eq_false hb
          rw [hends] at h
          obtain ⟨j, hj, rfl⟩ := Option.map_eq_some_iff.mp h
          rw [if_neg hb, ih hj, toNat_take hv b]
          simp only [List.take_succ_cons, List.foldl_cons, List.drop_succ_cons,
            Nat.succ_lt_succ_iff]

/-- Bytes in which no number ends: too many for a number, or too few. -/
theorem readGroups_of_not_ends {bs : Bytes} (h : bs.findIdx? ends = none) (n : Nat) (v : UInt32) :
    readGroups n v bs =
      .error (if bs.length < n ∧ bs.foldl push v.toNat < 2 ^ 32 then .unexpectedEnd
        else .integerOverflow) := by
  induction bs generalizing n v with
  | nil =>
    cases n with
    | zero => rfl
    | succ n => rw [readGroups, if_pos ⟨Nat.succ_pos n, v.toNat_lt⟩]
  | cons b rest ih =>
    cases n with
    | zero => rw [readGroups, if_neg fun hk => Nat.not_lt_zero _ hk.1]
    | succ n =>
      by_cases hv : v > shiftable
      · have hover := Nat.le_trans (le_push_of_not_shiftable hv b)
          (le_foldl_push (push v.toNat b) rest)
        rw [readGroups, if_pos hv, if_neg fun hk => Nat.not_lt.mpr hover hk.2]
      · have hall := List.findIdx?_eq_none_iff.mp h
        have hb : ¬b &&& 0x80 = 0 := of_decide_eq_false (hall b List.mem_cons_self)
        have hrest : rest.findIdx? ends = none :=
          List.findIdx?_eq_none_iff.mpr fun c hc => hall c (List.mem_cons_of_mem b hc)
        rw [readGroups_cons b hv, if_neg hb, ih hrest, toNat_take hv b]
        simp only [List.length_cons, List.foldl_cons, Nat.succ_lt_succ_iff]

/-- What comes of any bytes: the number that the groups up to the first end make, if that end is
among the first five bytes and the number has 32 bits. -/
theorem read_eq (bs : Bytes) : read bs =
    match bs.findIdx? ends with
    | some k =>
      if k < 5 ∧ value (bs.take (k + 1)) < 2 ^ 32 then
        .ok (.ofNat (value (bs.take (k + 1))), bs.drop (k + 1))
      else .error .integerOverflow
    | none => .error (if bs.length < 5 then .unexpectedEnd else .integerOverflow) := by
  rw [read]
  cases h : bs.findIdx? ends with
  | some k => exact readGroups_of_ends h 5 0
  | none =>
    rw [readGroups_of_not_ends h]
    have hfits : bs.length < 5 → bs.foldl push 0 < 2 ^ 32 := fun hlength =>
      Nat.lt_trans (foldl_push_lt (by decide : 0 < 2 ^ 0) bs)
        (Nat.pow_lt_pow_right (by decide) (by omega))
    have hiff : (bs.length < 5 ∧ bs.foldl push (0 : UInt32).toNat < 2 ^ 32) ↔ bs.length < 5 :=
      and_iff_left_of_imp hfits
    simp only [hiff]

/-- Numbers are read and written exactly. What is written takes one to five bytes, as it would with
any room, and is read back as it was. Any bytes at all are read as the number that they make, or it
is said what they lack. A byte is only taken in if the shift before it drops no bit. -/
theorem numbers_are_exact :
    (∀ (v : UInt32) (rest : Bytes), read (write v ++ rest) = .ok (v, rest) ∧
      1 ≤ (write v).length ∧ (write v).length ≤ 5 ∧
      ∀ room, higher (4 + room) (v >>> 7) [(v &&& 0x7F).toUInt8] = write v) ∧
    (∀ bs : Bytes, read bs =
      match bs.findIdx? ends with
      | some k =>
        if k < 5 ∧ value (bs.take (k + 1)) < 2 ^ 32 then
          .ok (.ofNat (value (bs.take (k + 1))), bs.drop (k + 1))
        else .error .integerOverflow
      | none => .error (if bs.length < 5 then .unexpectedEnd else .integerOverflow)) ∧
    ∀ (n : Nat) (v : UInt32) (b : UInt8) (rest : Bytes), readGroups (n + 1) v (b :: rest) =
      if (v <<< 7).toNat = v.toNat * 2 ^ 7 then
        if ends b then .ok (v <<< 7 ||| (b &&& 0x7F).toUInt32, rest)
        else readGroups n (v <<< 7 ||| (b &&& 0x7F).toUInt32) rest
      else .error .integerOverflow := by
  refine ⟨fun v rest => ?_, read_eq, readGroups_succ_cons⟩
  have hlength := length_higher 4 (v >>> 7) [(v &&& 0x7F).toUInt8]
  have hroom (room : Nat) := higher_add (toNat_shiftRight_seven_lt_four v) room
  exact ⟨read_write v rest, hlength.1, hlength.2, fun room => hroom room _⟩

end MailSync.Wbxml.MultiByte
