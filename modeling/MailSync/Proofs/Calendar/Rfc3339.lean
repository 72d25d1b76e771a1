import Mathlib.Algebra.Group.Nat.Defs
import Mathlib.Tactic.SplitIfs
import MailSync.Calendar.Rfc3339

/-!
# Instants written and read back

A number that is padded to a width is read back from that many digits, whatever follows it. So an
instant in one of the years 0 to 9999 is read back from the form kept in storage, leap seconds and
fractions included, and from the form sent to a peer if it is one of whole milliseconds. Conversely
every instant that is read is one the calendar has.
-/
namespace MailSync

namespace Text

theorem toList_padded (width n : Nat) :
    (padded width n).toList =
      List.replicate (width - (Nat.toDigits 10 n).length) '0' ++ Nat.toDigits 10 n := by
  rw [padded, String.toList_ofList]

theorem length_padded {width n : Nat} (hw : 0 < width) (h : n < 10 ^ width) :
    (padded width n).toList.length = width := by
  have hlen : (Nat.toDigits 10 n).length ≤ width :=
    (Nat.length_toDigits_le_iff (by decide) hw).mpr h
  rw [toList_padded, List.length_append, List.length_replicate]
  omega

theorem isDigit_of_mem_padded {width n : Nat} {c : Char} (h : c ∈ (padded width n).toList) :
    c.isDigit = true := by
  rw [toList_padded, List.mem_append] at h
  rcases h with h | h
  · rw [List.eq_of_mem_replicate h]
    rfl
  · exact Nat.isDigit_of_mem_toDigits (by decide) (by decide) h

theorem ofDigitChars_padded (width n : Nat) :
    Nat.ofDigitChars 10 (padded width n).toList 0 = n := by
  rw [toList_padded, Nat.ofDigitChars_append, Nat.ofDigitChars_replicate_zero, Nat.mul_zero,
    Nat.ofDigitChars_ten_toDigits]

end Text

namespace Date

theorem daysIn_le (year : Int) (month : Nat) : daysIn year month ≤ 31 := by
  unfold daysIn
  split_ifs <;> decide

theorem daysIn_pos (year : Int) (month : Nat) : 1 ≤ daysIn year month := by
  unfold daysIn
  split_ifs <;> decide

theorem isValid_next {d : Date} (h : d.IsValid) (hy : d.year < maxYear) : d.next.IsValid := by
  obtain ⟨hmin, hmax, hm, hm', hd, hd'⟩ := h
  have hnext := daysIn_pos d.year (d.month + 1)
  have hjanuary := daysIn_pos (d.year + 1) 1
  unfold next IsValid
  split_ifs <;> dsimp only <;> omega

theorem isValid_previous {d : Date} (h : d.IsValid) (hy : minYear < d.year) :
    d.previous.IsValid := by
  obtain ⟨hmin, hmax, hm, hm', hd, hd'⟩ := h
  have hprevious := daysIn_pos d.year (d.month - 1)
  have hdecember : daysIn (d.year - 1) 12 = 31 := rfl
  unfold previous IsValid
  split_ifs <;> dsimp only <;> omega

end Date

namespace Instant

/-- A moment that the calendar and the clock have. -/
def IsValid (i : Instant) : Prop :=
  i.date.IsValid ∧ i.second < secondsPerDay ∧
    (i.nano < leap ∨ i.second % 60 = 59 ∧ i.nano < 2 * leap)

instance (i : Instant) : Decidable i.IsValid := inferInstanceAs (Decidable (_ ∧ _))

/-- Whole minutes and less than a day away from universal time, a clock shows valid instants. -/
theorem isValid_ofLocal {date : Date} {second nano : Nat} {offset : Int} (hdate : date.IsValid)
    (hyear : 0 ≤ date.year ∧ date.year ≤ 9999) (hsecond : second < 86400)
    (hoffset : -86400 < offset ∧ offset < 86400 ∧ offset % 60 = 0)
    (hnano : nano < leap ∨ second % 60 = 59 ∧ nano < 2 * leap) :
    (ofLocal date second nano offset).IsValid := by
  have hday : secondsPerDay = 86400 := rfl
  have hmin : Date.minYear < date.year := by
    unfold Date.minYear
    omega
  have hmax : date.year < Date.maxYear := by
    unfold Date.maxYear
    omega
  unfold ofLocal
  simp only [hday]
  split_ifs with hbefore hsame
  · refine ⟨Date.isValid_previous hdate hmin, ?_⟩
    dsimp only
    omega
  · refine ⟨hdate, ?_⟩
    dsimp only
    omega
  · refine ⟨Date.isValid_next hdate hmax, ?_⟩
    dsimp only
    omega

/-- A clock of universal time shows the instant itself. -/
theorem ofLocal_zero (date : Date) {second : Nat} (h : second < secondsPerDay) (nano : Nat) :
    ofLocal date second nano 0 = ⟨date, second, nano⟩ := by
  have h0 : ¬(second : Int) < 0 := by omega
  have hday : (second : Int) < (secondsPerDay : Int) := by omega
  simp only [ofLocal, Int.sub_zero, if_neg h0, if_pos hday, Int.toNat_natCast]

end Instant

namespace Rfc3339
open Text (padded)

theorem digits?_padded {width n : Nat} (hw : 0 < width) (h : n < 10 ^ width) (rest : List Char) :
    digits? width ((padded width n).toList ++ rest) = some (n, rest) := by
  have hlen := Text.length_padded hw h
  have htake : ((padded width n).toList ++ rest).take width = (padded width n).toList :=
    List.take_left' hlen
  have hdrop : ((padded width n).toList ++ rest).drop width = rest := List.drop_left' hlen
  have hall : (padded width n).toList.all Char.isDigit = true :=
    List.all_eq_true.mpr fun _ => Text.isDigit_of_mem_padded
  have hle : width ≤ ((padded width n).toList ++ rest).length := by
    rw [List.length_append]
    omega
  rw [digits?, htake, hdrop, if_pos ⟨hle, hall⟩, Text.ofDigitChars_padded]

/-- A step that succeeds hands its value on. -/
theorem bind_of_eq_some {α β : Type} {x : Option α} {a : α} {f : α → Option β} (h : x = some a) :
    (x >>= f) = f a := by
  rw [h]
  rfl

theorem expect?_cons (c : Char) (cs : List Char) : expect? c (c :: cs) = some cs := if_pos rfl

/-- A fraction that is padded to at most nine digits, before something that is no digit. -/
theorem fraction?_padded {width n : Nat} (hw : 0 < width) (hw9 : width ≤ 9) (h : n < 10 ^ width)
    {c : Char} (hc : ¬c.isDigit = true) (rest : List Char) :
    fraction? ('.' :: ((padded width n).toList ++ c :: rest)) =
      some (n * 10 ^ (9 - width), c :: rest) := by
  have hlen := Text.length_padded hw h
  have hdigits : ∀ c ∈ (padded width n).toList, c.isDigit = true := fun _ =>
    Text.isDigit_of_mem_padded
  have htake : ((padded width n).toList ++ c :: rest).takeWhile Char.isDigit =
      (padded width n).toList := by
    rw [List.takeWhile_append_of_pos hdigits, List.takeWhile_cons_of_neg hc, List.append_nil]
  have hdrop : ((padded width n).toList ++ c :: rest).dropWhile Char.isDigit = c :: rest := by
    rw [List.dropWhile_append_of_pos hdigits, List.dropWhile_cons_of_neg hc]
  have hne : (padded width n).toList ≠ [] := List.ne_nil_of_length_pos (by omega)
  have hkept : (padded width n).toList.take 9 = (padded width n).toList :=
    List.take_of_length_le (by omega)
  simp only [fraction?, htake, hdrop, hkept, if_neg hne, hlen, Text.ofDigitChars_padded,
    Nat.pow_eq]

/-- The written fraction loses nothing. -/
theorem fraction?_fractionText (i : Instant) (rest : List Char) :
    fraction? ((fractionText i).toList ++ '+' :: rest) =
      some (i.nano % Instant.leap, '+' :: rest) := by
  have hlt : i.nano % Instant.leap < 1000000000 := Nat.mod_lt _ (by decide)
  have hdot (text : String) :
      ("." ++ text).toList ++ '+' :: rest = '.' :: (text.toList ++ '+' :: rest) := by
    rw [String.toList_append]
    rfl
  unfold fractionText
  generalize i.nano % Instant.leap = nano at hlt
  simp only
  split_ifs with h0 h3 h6
  · rw [h0]
    rfl
  · rw [hdot, fraction?_padded (by decide) (by decide) (by omega) (by decide)]
    congr 2
    omega
  · rw [hdot, fraction?_padded (by decide) (by decide) (by omega) (by decide)]
    congr 2
    omega
  · rw [hdot, fraction?_padded (by decide) (by decide) (by omega) (by decide)]
    congr 2
    omega

/-- Date and time of the day up to the second, character by character, before what follows. -/
theorem toList_local {i : Instant} (hy : 0 ≤ i.date.year ∧ i.date.year ≤ 9999)
    (rest : List Char) :
    (dateText i.date ++ "T" ++ clockText i).toList ++ rest =
      (padded 4 i.date.year.toNat).toList ++ '-' :: ((padded 2 i.date.month).toList ++
        '-' :: ((padded 2 i.date.day).toList ++ 'T' :: ((padded 2 (i.second / 3600)).toList ++
          ':' :: ((padded 2 (i.second / 60 % 60)).toList ++ ':' ::
            ((padded 2 (i.second % 60 + if Instant.leap ≤ i.nano then 1 else 0)).toList ++
              rest))))) := by
  rw [dateText, yearText, if_pos hy, clockText]
  simp [String.toList_append]

/-- An instant in one of the years 0 to 9999 is read back before a fraction that gives its
nanoseconds and an offset of zero. -/
theorem read?_local {i : Instant} (h : i.IsValid) (hy : 0 ≤ i.date.year ∧ i.date.year ≤ 9999)
    {rest zone : List Char} (hfraction : fraction? rest = some (i.nano % Instant.leap, zone))
    (hoffset : offset? zone = some (0, [])) :
    read? ((dateText i.date ++ "T" ++ clockText i).toList ++ rest) = some i := by
  obtain ⟨hdate, hsecond, hnano⟩ := h
  obtain ⟨-, -, -, hmonth, -, hday⟩ := id hdate
  have hday31 : i.date.day ≤ 31 := Nat.le_trans hday (Date.daysIn_le ..)
  have hclock : i.second < 86400 := hsecond
  have hyear : Date.ofNumbers? (i.date.year.toNat : Int) i.date.month i.date.day = some i.date := by
    rw [Int.toNat_of_nonneg hy.1]
    exact Date.ofNumbers?_eq_some_iff.mpr ⟨rfl, hdate⟩
  have hseparator (cs : List Char) : separator? ('T' :: cs) = some cs := rfl
  have hparts : i.second / 3600 * 3600 + i.second / 60 % 60 * 60 + i.second % 60 = i.second := by
    omega
  -- The second that is shown is 60 in a leap second, and only there.
  generalize hshown : (i.second % 60 + if Instant.leap ≤ i.nano then 1 else 0) = shown
  have hshown60 : shown ≤ 60 := by
    split_ifs at hshown <;> omega
  rw [toList_local hy, hshown, read?]
  -- One step for each part of the text, in the order of reading.
  refine (bind_of_eq_some (digits?_padded (by decide) (by omega) _)).trans ?_
  refine (bind_of_eq_some (expect?_cons _ _)).trans ?_
  refine (bind_of_eq_some (digits?_padded (by decide) (by omega) _)).trans ?_
  refine (bind_of_eq_some (expect?_cons _ _)).trans ?_
  refine (bind_of_eq_some (digits?_padded (by decide) (by omega) _)).trans ?_
  refine (bind_of_eq_some (hseparator _)).trans ?_
  refine (bind_of_eq_some (digits?_padded (by decide) (by omega) _)).trans ?_
  refine (bind_of_eq_some (expect?_cons _ _)).trans ?_
  refine (bind_of_eq_some (digits?_padded (by decide) (by omega) _)).trans ?_
  refine (bind_of_eq_some (expect?_cons _ _)).trans ?_
  refine (bind_of_eq_some (digits?_padded (by decide) (by omega) _)).trans ?_
  refine (bind_of_eq_some hfraction).trans ?_
  refine (bind_of_eq_some hoffset).trans ?_
  refine (bind_of_eq_some hyear).trans ?_
  rw [if_pos ⟨rfl, by omega⟩]
  rcases hnano with hnano | ⟨hlast, hnano⟩
  · rw [if_neg (by omega)] at hshown
    rw [if_neg (by omega), ← hshown, Nat.add_zero, hparts, Nat.mod_eq_of_lt hnano,
      Instant.ofLocal_zero _ hsecond]
  · by_cases hleap : Instant.leap ≤ i.nano
    · have hrest : i.nano % Instant.leap + Instant.leap = i.nano := by
        rw [Nat.mod_eq_sub_mod hleap, Nat.mod_eq_of_lt (by omega)]
        omega
      rw [if_pos hleap] at hshown
      rw [if_pos (by omega), ← hlast, hparts, hrest, Instant.ofLocal_zero _ hsecond]
    · rw [if_neg hleap] at hshown
      rw [if_neg (by omega), ← hshown, Nat.add_zero, hparts, Nat.mod_eq_of_lt (by omega),
        Instant.ofLocal_zero _ hsecond]

/-- What was written for an instant in one of the years 0 to 9999 is read back. -/
theorem read?_write {i : Instant} (h : i.IsValid) (hy : 0 ≤ i.date.year ∧ i.date.year ≤ 9999) :
    read? (write i).toList = some i := by
  have hwhole : (write i).toList = (dateText i.date ++ "T" ++ clockText i).toList ++
      ((fractionText i).toList ++ '+' :: "00:00".toList) := by
    rw [write, String.toList_append, String.toList_append, List.append_assoc]
    rfl
  rw [hwhole]
  exact read?_local h hy (fraction?_fractionText i _) rfl

theorem digits?_cons_of_not_isDigit {n : Nat} {c : Char} (h : c.isDigit = false) (cs : List Char) :
    digits? (n + 1) (c :: cs) = none := by
  rw [digits?, if_neg]
  rintro ⟨-, hall⟩
  rw [List.take_succ_cons, List.all_cons, h] at hall
  cases hall

/-- Outside of these years the text begins with a sign, which no reader of instants takes. -/
theorem read?_write_eq_none {i : Instant} (hy : ¬(0 ≤ i.date.year ∧ i.date.year ≤ 9999)) :
    read? (write i).toList = none := by
  obtain ⟨c, cs, hc, hyear⟩ : ∃ c cs, c.isDigit = false ∧ (yearText i.date.year).toList = c :: cs := by
    rw [yearText, if_neg hy]
    split_ifs
    · exact ⟨'-', _, rfl, String.toList_append ..⟩
    · exact ⟨'+', _, rfl, String.toList_append ..⟩
  simp only [write, dateText, String.toList_append, hyear, List.cons_append, read?,
    digits?_cons_of_not_isDigit hc]
  rfl

theorem toList_writeMillis (i : Instant) :
    (writeMillis i).toList = (dateText i.date ++ "T" ++ clockText i).toList ++
      '.' :: ((padded 3 (i.nano % Instant.leap / 1000000)).toList ++ ['Z']) := by
  rw [writeMillis]
  simp [String.toList_append]

/-- What was sent for an instant of whole milliseconds is read back. -/
theorem read?_writeMillis {i : Instant} (h : i.IsValid)
    (hy : 0 ≤ i.date.year ∧ i.date.year ≤ 9999) (hmillis : i.nano % 1000000 = 0) :
    read? (writeMillis i).toList = some i := by
  have hlt : i.nano % Instant.leap < 1000000000 := Nat.mod_lt _ (by decide)
  have hrest : i.nano % Instant.leap % 1000000 = 0 := by
    rw [Nat.mod_mod_of_dvd _ (by decide : 1000000 ∣ Instant.leap), hmillis]
  have hfraction := fraction?_padded (n := i.nano % Instant.leap / 1000000) (c := 'Z')
    (by decide : 0 < 3) (by decide) (by omega) (by decide) []
  have hwhole : i.nano % Instant.leap / 1000000 * 10 ^ (9 - 3) = i.nano % Instant.leap := by
    omega
  rw [hwhole] at hfraction
  rw [toList_writeMillis]
  exact read?_local h hy hfraction rfl

/-- The characters of the form that is sent to a peer. -/
theorem mem_writeMillis {i : Instant} (hy : 0 ≤ i.date.year ∧ i.date.year ≤ 9999) {c : Char}
    (h : c ∈ (writeMillis i).toList) : c.isDigit = true ∨ c ∈ ['-', 'T', ':', '.', 'Z'] := by
  have hdigit {width n : Nat} : ∀ c ∈ (padded width n).toList, c.isDigit = true := fun _ =>
    Text.isDigit_of_mem_padded
  rw [toList_writeMillis, toList_local hy] at h
  simp only [List.mem_append, List.mem_cons, List.not_mem_nil, or_false] at h ⊢
  grind

/-! ### What is read -/

/-- The value of digits is below the power of ten that their number gives. -/
theorem ofDigitChars_lt {cs : List Char} (h : ∀ c ∈ cs, c.isDigit = true) (start : Nat) :
    Nat.ofDigitChars 10 cs start < 10 ^ cs.length * (start + 1) := by
  induction cs generalizing start with
  | nil => simp
  | cons c cs ih =>
    have hc : c.toNat - '0'.toNat ≤ 9 := by
      have hdigit := h c List.mem_cons_self
      simp only [Char.isDigit, Bool.and_eq_true, decide_eq_true_eq] at hdigit
      have hnine : c.toNat ≤ 57 := UInt32.le_iff_toNat_le.mp hdigit.2
      have hzero : '0'.toNat = 48 := rfl
      omega
    rw [Nat.ofDigitChars_cons, List.length_cons]
    have hrest := ih (fun d hd => h d (List.mem_cons_of_mem c hd))
      (10 * start + (c.toNat - '0'.toNat))
    calc _ < 10 ^ cs.length * (10 * start + (c.toNat - '0'.toNat) + 1) := hrest
      _ ≤ 10 ^ cs.length * (10 * (start + 1)) := Nat.mul_le_mul_left _ (by omega)
      _ = 10 ^ (cs.length + 1) * (start + 1) := by rw [Nat.pow_succ, Nat.mul_assoc]

theorem lt_of_digits? {n k : Nat} {cs rest : List Char} (h : digits? n cs = some (k, rest)) :
    k < 10 ^ n := by
  unfold digits? at h
  split_ifs at h with hn
  obtain ⟨rfl, -⟩ := Prod.mk.inj (Option.some.inj h)
  have hlt := ofDigitChars_lt (List.all_eq_true.mp hn.2) 0
  rw [List.length_take_of_le hn.1] at hlt
  omega

theorem lt_of_fraction? {k : Nat} {cs rest : List Char} (h : fraction? cs = some (k, rest)) :
    k < Instant.leap := by
  unfold fraction? at h
  split at h
  · simp only at h
    split_ifs at h with hn
    obtain ⟨rfl, -⟩ := Prod.mk.inj (Option.some.inj h)
    rename_i cs
    have hdigits : ∀ c ∈ (cs.takeWhile Char.isDigit).take 9, c.isDigit = true := fun c hc =>
      List.all_eq_true.mp List.all_takeWhile c (List.mem_of_mem_take hc)
    have hlen : ((cs.takeWhile Char.isDigit).take 9).length ≤ 9 := List.length_take_le ..
    generalize (cs.takeWhile Char.isDigit).take 9 = kept at hdigits hlen
    have hlt : Nat.ofDigitChars 10 kept 0 < 10 ^ kept.length := by
      simpa using ofDigitChars_lt hdigits 0
    calc Nat.ofDigitChars 10 kept 0 * 10 ^ (9 - kept.length)
        < 10 ^ kept.length * 10 ^ (9 - kept.length) :=
          Nat.mul_lt_mul_of_pos_right hlt (Nat.pow_pos (by decide))
      _ = Instant.leap := by
          rw [← Nat.pow_add, Nat.add_sub_cancel' hlen]
          rfl
  · obtain ⟨rfl, -⟩ := Prod.mk.inj (Option.some.inj h)
    decide

theorem of_hoursMinutes? {s : Nat} {cs rest : List Char} (h : hoursMinutes? cs = some (s, rest)) :
    s < 86400 ∧ s % 60 = 0 := by
  simp only [hoursMinutes?, Option.bind_eq_bind, Option.bind_eq_some_iff] at h
  obtain ⟨⟨hours, _⟩, -, _, -, ⟨minutes, _⟩, -, h⟩ := h
  split_ifs at h with hclock
  obtain ⟨rfl, -⟩ := Prod.mk.inj (Option.some.inj h)
  omega

/-- Offsets are whole minutes and less than a day. -/
theorem of_offset? {o : Int} {cs rest : List Char} (h : offset? cs = some (o, rest)) :
    -86400 < o ∧ o < 86400 ∧ o % 60 = 0 := by
  cases cs with
  | nil => cases h
  | cons c cs =>
    simp only [offset?] at h
    split_ifs at h
    · obtain ⟨rfl, -⟩ := Prod.mk.inj (Option.some.inj h)
      decide
    · obtain ⟨⟨s, _⟩, hs, hso⟩ := Option.map_eq_some_iff.mp h
      obtain ⟨rfl, -⟩ := Prod.mk.inj hso
      have := of_hoursMinutes? hs
      omega
    · obtain ⟨⟨s, _⟩, hs, hso⟩ := Option.map_eq_some_iff.mp h
      obtain ⟨rfl, -⟩ := Prod.mk.inj hso
      have := of_hoursMinutes? hs
      omega

/-- Every instant that is read is one the calendar and the clock have. -/
theorem isValid_of_read? {cs : List Char} {i : Instant} (h : read? cs = some i) : i.IsValid := by
  rw [read?] at h
  obtain ⟨⟨year, _⟩, hyear, h⟩ := Option.bind_eq_some_iff.mp h
  obtain ⟨_, -, h⟩ := Option.bind_eq_some_iff.mp h
  obtain ⟨⟨month, _⟩, -, h⟩ := Option.bind_eq_some_iff.mp h
  obtain ⟨_, -, h⟩ := Option.bind_eq_some_iff.mp h
  obtain ⟨⟨day, _⟩, -, h⟩ := Option.bind_eq_some_iff.mp h
  obtain ⟨_, -, h⟩ := Option.bind_eq_some_iff.mp h
  obtain ⟨⟨hour, _⟩, -, h⟩ := Option.bind_eq_some_iff.mp h
  obtain ⟨_, -, h⟩ := Option.bind_eq_some_iff.mp h
  obtain ⟨⟨minute, _⟩, -, h⟩ := Option.bind_eq_some_iff.mp h
  obtain ⟨_, -, h⟩ := Option.bind_eq_some_iff.mp h
  obtain ⟨⟨second, _⟩, -, h⟩ := Option.bind_eq_some_iff.mp h
  obtain ⟨⟨nano, _⟩, hnano, h⟩ := Option.bind_eq_some_iff.mp h
  obtain ⟨⟨offset, _⟩, hoffset, h⟩ := Option.bind_eq_some_iff.mp h
  obtain ⟨date, hdate, h⟩ := Option.bind_eq_some_iff.mp h
  obtain ⟨rfl, hdate⟩ := Date.ofNumbers?_eq_some_iff.mp hdate
  have hyear := lt_of_digits? hyear
  have hyears : 0 ≤ (year : Int) ∧ (year : Int) ≤ 9999 := by omega
  have hnano := lt_of_fraction? hnano
  have hoffset := of_offset? hoffset
  split_ifs at h with hclock hleap
  · rw [← Option.some.inj h]
    exact Instant.isValid_ofLocal hdate hyears (by omega) hoffset (.inr (by omega))
  · rw [← Option.some.inj h]
    exact Instant.isValid_ofLocal hdate hyears (by omega) hoffset (.inl hnano)

/-- A date alone is one that the calendar has, in whatever year. -/
theorem isValid_of_readDate? {cs : List Char} {d : Date} (h : readDate? cs = some d) :
    d.IsValid := by
  rw [readDate?] at h
  obtain ⟨⟨year, _⟩, -, h⟩ := Option.bind_eq_some_iff.mp h
  obtain ⟨_, -, h⟩ := Option.bind_eq_some_iff.mp h
  obtain ⟨⟨month, _⟩, -, h⟩ := Option.bind_eq_some_iff.mp h
  obtain ⟨_, -, h⟩ := Option.bind_eq_some_iff.mp h
  obtain ⟨⟨day, _⟩, -, h⟩ := Option.bind_eq_some_iff.mp h
  dsimp only at h
  split_ifs at h
  exact (Date.ofNumbers?_eq_some_iff.mp h).2

end Rfc3339
end MailSync
