import MailSync.Locks
import Mathlib.Data.List.Nodup

/-!
# Guards

Whoever takes a lock has a guard for it, and to drop the guard gives the lock back. Guards are taken
and dropped in any order. The guards that live have different names, and theirs are the names that
are held, so a lock can be taken just when no guard of its name lives.
-/
namespace MailSync.Locks

theorem isHeld_free (name : String) : free.isHeld name = false := by
  simp [isHeld, free]

theorem acquire?_free (name : String) : free.acquire? name = some ⟨free.held.insert name⟩ := by
  rw [acquire?, isHeld_free, if_neg Bool.false_ne_true]

theorem acquire?_isSome_iff {l : Locks} {name : String} :
    (l.acquire? name).isSome = true ↔ ¬l.isHeld name = true := by
  by_cases h : l.isHeld name <;> simp [acquire?, h]

theorem acquire?_eq_none_iff {l : Locks} {name : String} :
    l.acquire? name = none ↔ l.isHeld name = true := by
  rw [← Option.not_isSome_iff_eq_none, acquire?_isSome_iff, not_not]

theorem isHeld_of_acquire? {l l' : Locks} {name : String} (h : l.acquire? name = some l')
    (other : String) : l'.isHeld other = true ↔ other = name ∨ l.isHeld other = true := by
  obtain ⟨-, rfl⟩ := acquire?_eq_some_iff.mp h
  rw [isHeld_iff, isHeld_iff, Std.ExtTreeSet.mem_insert, Std.LawfulEqCmp.compare_eq_iff_eq, eq_comm]

theorem isHeld_release (l : Locks) (name other : String) :
    (l.release name).isHeld other = true ↔ other ≠ name ∧ l.isHeld other = true := by
  rw [isHeld_iff, isHeld_iff, release, Std.ExtTreeSet.mem_erase, Ne, Ne,
    Std.LawfulEqCmp.compare_eq_iff_eq, eq_comm]

/-- What is done with guards. -/
inductive Move where
  /-- Asks for a guard. -/
  | acquire (name : String)
  /-- Drops the guard at a place among those that live. -/
  | drop (place : Nat)
deriving Repr, DecidableEq

/-- The locks, and the names of the guards that live, oldest first. -/
structure Registry where
  locks : Locks
  live : List String

namespace Registry

def start : Registry := ⟨.free, []⟩

/-- Hands out a guard, unless the lock is held. -/
def acquire? (r : Registry) (name : String) : Option Registry :=
  (r.locks.acquire? name).map fun locks => ⟨locks, r.live ++ [name]⟩

/-- Drops a guard; does nothing if there is none at the place. -/
def drop (r : Registry) (place : Nat) : Registry :=
  match r.live[place]? with
  | some name => ⟨r.locks.release name, r.live.eraseIdx place⟩
  | none => r

def step (r : Registry) : Move → Registry
  | .acquire name => (r.acquire? name).getD r
  | .drop place => r.drop place

def after (moves : List Move) : Registry := moves.foldl step start

/-- The guards that live have different names, and those are the names held. -/
structure Sound (r : Registry) : Prop where
  nodup : r.live.Nodup
  held : ∀ name, r.locks.isHeld name = true ↔ name ∈ r.live

variable {r : Registry}

theorem sound_start : start.Sound where
  nodup := List.nodup_nil
  held name := by simp [start, isHeld_free]

namespace Sound

theorem acquire?_isSome_iff (h : r.Sound) (name : String) :
    (r.acquire? name).isSome = true ↔ name ∉ r.live := by
  rw [acquire?, Option.isSome_map, Locks.acquire?_isSome_iff, h.held]

/-- Among guards with different names, those that are left are the ones of another name. -/
theorem mem_live_drop (h : r.Sound) {place : Nat} {name : String} (hp : r.live[place]? = some name)
    (other : String) : other ∈ (r.drop place).live ↔ other ≠ name ∧ other ∈ r.live := by
  obtain ⟨hlt, hget⟩ := List.getElem?_eq_some_iff.mp hp
  have hlive : (r.drop place).live = r.live.erase name := by
    simp only [drop, hp]
    rw [← hget, h.nodup.erase_getElem place hlt]
  rw [hlive, h.nodup.mem_erase_iff]

theorem isHeld_drop {place : Nat} {name : String} (hp : r.live[place]? = some name)
    (other : String) :
    (r.drop place).locks.isHeld other = true ↔ other ≠ name ∧ r.locks.isHeld other = true := by
  simp only [drop, hp]
  exact isHeld_release ..

theorem step (h : r.Sound) (move : Move) : (r.step move).Sound := by
  cases move with
  | acquire name =>
    cases ha : r.locks.acquire? name with
    | none => simpa only [Registry.step, acquire?, ha, Option.map_none, Option.getD_none] using h
    | some locks =>
      have hnew : name ∉ r.live := by
        rw [← h.acquire?_isSome_iff, acquire?, ha]
        rfl
      simp only [Registry.step, acquire?, ha, Option.map_some, Option.getD_some]
      refine ⟨List.concat_eq_append ▸ h.nodup.concat hnew, fun other => ?_⟩
      rw [isHeld_of_acquire? ha, h.held, List.mem_append, List.mem_singleton, or_comm]
  | drop place =>
    cases hp : r.live[place]? with
    | none => simpa only [Registry.step, drop, hp] using h
    | some name =>
      refine ⟨?_, fun other => ?_⟩
      · simp only [Registry.step, drop, hp]
        exact h.nodup.eraseIdx place
      · exact (isHeld_drop hp other).trans
          ((and_congr_right fun _ => h.held other).trans (h.mem_live_drop hp other).symm)

theorem foldl (h : r.Sound) (moves : List Move) : (moves.foldl Registry.step r).Sound := by
  induction moves generalizing r with
  | nil => exact h
  | cons move moves ih => exact ih (h.step move)

end Sound

theorem sound_after (moves : List Move) : (after moves).Sound := sound_start.foldl moves

end Registry
end MailSync.Locks
