import Std.Data.ExtTreeSet

/-!
# Locks

The names held by running passes. Each folder has a name of its own and the hierarchy has
one, so that no sync key is advanced by two passes at once.
-/
namespace MailSync

structure Locks where
  held : Std.ExtTreeSet String
deriving DecidableEq

namespace Locks

/-- No name is held. -/
def free : Locks := ⟨∅⟩

def isHeld (l : Locks) (name : String) : Bool := name ∈ l.held

/-- Takes a name, unless it is held. -/
def acquire? (l : Locks) (name : String) : Option Locks :=
  if l.isHeld name then none else some ⟨l.held.insert name⟩

def release (l : Locks) (name : String) : Locks := ⟨l.held.erase name⟩

/-- The name for the folder hierarchy. -/
def hierarchy : String := "folders"

/-- The name for the messages of a folder. -/
def ofFolder (id : String) : String := "folder:" ++ id

theorem isHeld_iff {l : Locks} {name : String} : l.isHeld name = true ↔ name ∈ l.held := by
  simp [isHeld]

theorem acquire?_eq_some_iff {l l' : Locks} {name : String} :
    l.acquire? name = some l' ↔ name ∉ l.held ∧ l' = ⟨l.held.insert name⟩ := by
  by_cases h : name ∈ l.held <;> simp [acquire?, isHeld, h, eq_comm]

theorem release_acquire {l l' : Locks} {name : String} (h : l.acquire? name = some l') :
    l'.release name = l := by
  obtain ⟨hn, rfl⟩ := acquire?_eq_some_iff.mp h
  simp only [release]
  congr 1
  ext a
  by_cases ha : name = a
  · simpa [ha] using ha ▸ hn
  · simp [ha]

theorem ofFolder_injective {a b : String} (h : ofFolder a = ofFolder b) : a = b := by
  simpa [ofFolder] using h

theorem ofFolder_ne_hierarchy (id : String) : ofFolder id ≠ hierarchy := by
  intro h
  have := congrArg String.toList h
  simp [ofFolder, hierarchy] at this

end Locks
end MailSync
