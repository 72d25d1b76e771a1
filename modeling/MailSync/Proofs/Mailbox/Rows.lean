import Mathlib.Data.List.Nodup
import Mathlib.Tactic.SplitIfs
import MailSync.Mailbox.Tables

/-!
# Tables of rows

A table holds rows in no particular order, and its key tells them apart. What is found under a key
determines the table up to this order. Rows that are put in, taken out or changed change what is
found under their keys, and a table that is sorted by its key is the list of what is found in the
order of the keys.
-/
namespace MailSync.Mailbox

theorem pairwise_sortedBy {ρ : Type} (column : ρ → String) (rows : List ρ) :
    (sortedBy column rows).Pairwise fun a b => column a ≤ column b := by
  have htrans (a b c : ρ) (hab : decide (column a ≤ column b) = true)
      (hbc : decide (column b ≤ column c) = true) : decide (column a ≤ column c) = true :=
    decide_eq_true (String.le_trans (of_decide_eq_true hab) (of_decide_eq_true hbc))
  have htotal (a b : ρ) :
      (decide (column a ≤ column b) || decide (column b ≤ column a)) = true := by
    simpa using String.le_total (column a) (column b)
  exact (List.pairwise_mergeSort htrans htotal rows).imp of_decide_eq_true

section
variable {ρ κ : Type} [DecidableEq κ] (key : ρ → κ)

/-- What is found under a key among the rows whose keys pass a test. -/
theorem find?_filter_key (p : κ → Bool) (rows : List ρ) (k : κ) :
    (rows.filter fun r => p (key r)).find? (fun r => decide (key r = k)) =
      if p k then rows.find? fun r => decide (key r = k) else none := by
  induction rows with
  | nil => split_ifs <;> rfl
  | cons r rows ih =>
    by_cases hk : key r = k
    · subst hk
      cases hp : p (key r) <;> simp [hp, ih]
    · rw [List.find?_cons_of_neg (by simp [hk]), ← ih, List.filter_cons]
      split_ifs
      · rw [List.find?_cons_of_neg (by simp [hk])]
      · rfl

/-- What is found under a key once a row was put in. -/
theorem find?_upsert (row : ρ) (rows : List ρ) (k : κ) :
    (upsert key row rows).find? (fun r => decide (key r = k)) =
      if key row = k then some row else rows.find? fun r => decide (key r = k) := by
  have hothers := find?_filter_key key (fun k => decide (k ≠ key row)) rows k
  rw [upsert, List.find?_append, hothers]
  by_cases h : key row = k
  · rw [if_neg (by simp [h]), Option.none_or, List.find?_cons_of_pos (by simp [h]), if_pos h]
  · rw [if_pos (by simp [Ne.symm h]), List.find?_cons_of_neg (by simp [h]), List.find?_nil,
      Option.or_none, if_neg h]

end

/-- The rows are what is found under the keys, each row once. -/
structure Tabulates {ρ κ : Type} (key : ρ → κ) (rows : List ρ) (find : κ → Option ρ) : Prop where
  nodup : rows.Nodup
  find_eq_some : ∀ k r, find k = some r ↔ r ∈ rows ∧ key r = k

namespace Tabulates
variable {ρ κ : Type} {key : ρ → κ} {rows : List ρ} {find : κ → Option ρ}

theorem nil (key : ρ → κ) : Tabulates key [] fun _ => none where
  nodup := List.nodup_nil
  find_eq_some k r := by simp

theorem congr (h : Tabulates key rows find) {find' : κ → Option ρ} (he : ∀ k, find' k = find k) :
    Tabulates key rows find' where
  nodup := h.nodup
  find_eq_some k r := by rw [he, h.find_eq_some]

theorem find_of_mem (h : Tabulates key rows find) {r : ρ} (hr : r ∈ rows) :
    find (key r) = some r :=
  (h.find_eq_some _ r).mpr ⟨hr, rfl⟩

/-- No two rows have one key. -/
theorem eq_of_key (h : Tabulates key rows find) {r s : ρ} (hr : r ∈ rows) (hs : s ∈ rows)
    (hkey : key r = key s) : r = s := by
  have hfind : find (key s) = some r := hkey ▸ h.find_of_mem hr
  exact Option.some.inj (hfind.symm.trans (h.find_of_mem hs))

theorem filter (h : Tabulates key rows find) (p : κ → Bool) :
    Tabulates key (rows.filter fun r => p (key r)) fun k => if p k then find k else none where
  nodup := h.nodup.filter _
  find_eq_some k r := by
    rw [List.mem_filter]
    split_ifs with hp
    · rw [h.find_eq_some]
      constructor
      · rintro ⟨hr, rfl⟩
        exact ⟨⟨hr, hp⟩, rfl⟩
      · rintro ⟨⟨hr, -⟩, hk⟩
        exact ⟨hr, hk⟩
    · constructor
      · intro hr
        cases hr
      · rintro ⟨⟨-, hr⟩, rfl⟩
        exact absurd hr hp

theorem map (h : Tabulates key rows find) {change : ρ → ρ} (hkey : ∀ r, key (change r) = key r) :
    Tabulates key (rows.map change) fun k => (find k).map change where
  nodup := by
    refine h.nodup.map_on fun r hr s hs he => h.eq_of_key hr hs ?_
    rw [← hkey r, he, hkey s]
  find_eq_some k r := by
    rw [Option.map_eq_some_iff, List.mem_map]
    constructor
    · rintro ⟨s, hs, rfl⟩
      obtain ⟨hs', rfl⟩ := (h.find_eq_some k s).mp hs
      exact ⟨⟨s, hs', rfl⟩, hkey s⟩
    · rintro ⟨⟨s, hs, rfl⟩, rfl⟩
      exact ⟨s, hkey s ▸ h.find_of_mem hs, rfl⟩

section
variable [DecidableEq κ]

theorem upsert (h : Tabulates key rows find) (row : ρ) :
    Tabulates key (upsert key row rows) fun k => if key row = k then some row else find k where
  nodup := by
    refine List.nodup_append.mpr ⟨h.nodup.filter _, List.nodup_singleton row, ?_⟩
    intro r hr s hs he
    obtain rfl := List.mem_singleton.mp hs
    have hne : key r ≠ key s := by simpa using (List.mem_filter.mp hr).2
    exact hne (congrArg key he)
  find_eq_some k r := by
    simp only [Mailbox.upsert, List.mem_append, List.mem_filter, List.mem_singleton,
      decide_eq_true_eq]
    split_ifs with hk
    · constructor
      · rintro ⟨⟩
        exact ⟨.inr rfl, hk⟩
      · rintro ⟨⟨-, hne⟩ | rfl, hr⟩
        · exact absurd (hr.trans hk.symm) hne
        · rfl
    · rw [h.find_eq_some]
      constructor
      · rintro ⟨hr, rfl⟩
        exact ⟨.inl ⟨hr, fun he => hk he.symm⟩, rfl⟩
      · rintro ⟨⟨hr, -⟩ | rfl, he⟩
        · exact ⟨hr, he⟩
        · exact absurd he hk

/-- A search by key. -/
theorem find?_eq (h : Tabulates key rows find) (k : κ) :
    rows.find? (fun r => decide (key r = k)) = find k := by
  cases hf : rows.find? (fun r => decide (key r = k)) with
  | none =>
    cases hk : find k with
    | none => rfl
    | some r =>
      obtain ⟨hr, hrk⟩ := (h.find_eq_some k r).mp hk
      exact absurd (decide_eq_true hrk) (List.find?_eq_none.mp hf r hr)
  | some r =>
    have hr : key r = k := by simpa using List.find?_some hf
    exact ((h.find_eq_some k r).mpr ⟨List.mem_of_find?_eq_some hf, hr⟩).symm

end

/-- The rows in which the first part of the key is given, by the second part. -/
theorem part {α : Type} [DecidableEq α] {first : ρ → α} {second : ρ → κ} {find : α × κ → Option ρ}
    (h : Tabulates (fun r => (first r, second r)) rows find) (a : α) (p : ρ → Bool) :
    Tabulates second (rows.filter fun r => decide (first r = a ∧ p r = true))
      fun k => (find (a, k)).filter p where
  nodup := h.nodup.filter _
  find_eq_some k r := by
    rw [Option.filter_eq_some_iff, h.find_eq_some, List.mem_filter, decide_eq_true_eq,
      Prod.mk.injEq]
    tauto

/-- A table that is sorted by its key is the list of its rows in the order of the keys. -/
theorem sortedBy_eq {column : ρ → String} {find : String → Option ρ}
    (h : Tabulates column rows find) {l : List ρ}
    (hl : l.Pairwise fun a b => column a < column b)
    (hmem : ∀ r, r ∈ l ↔ find (column r) = some r) : sortedBy column rows = l := by
  have hrows : (sortedBy column rows).Perm rows := List.mergeSort_perm ..
  have hnodup : l.Nodup := by
    refine hl.imp fun {a b} hlt he => ?_
    rw [he] at hlt
    exact String.lt_irrefl _ hlt
  have hperm : rows.Perm l := by
    refine (List.perm_ext_iff_of_nodup h.nodup hnodup).mpr fun r => ?_
    rw [hmem, h.find_eq_some, and_iff_left rfl]
  have hsorted : l.Pairwise fun a b => column a ≤ column b := hl.imp Std.le_of_lt
  refine (hrows.trans hperm).eq_of_pairwise ?_ (pairwise_sortedBy column rows) hsorted
  intro a b ha hb hab hba
  exact h.eq_of_key (hrows.mem_iff.mp ha) (hperm.mem_iff.mpr hb) (String.le_antisymm hab hba)

end Tabulates
end MailSync.Mailbox
