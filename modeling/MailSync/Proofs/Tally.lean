import MailSync.Locks
import MailSync.Proofs.Trace

/-!
# What is costly

The costly things that an operation can ask for: requests for messages, for folders and of the
policy handshake, and passes over the hierarchy. A tally counts them in a trace. It also serves as a
bound on what is asked for.
-/
namespace MailSync

/-- How often a trace asks for what is costly. -/
structure Tally where
  syncs : Nat
  folderSyncs : Nat
  provisions : Nat
  /-- Passes over the hierarchy that were begun. -/
  passes : Nat
deriving DecidableEq

namespace Tally

def of (t : List Asked) : Tally where
  syncs := (repliesTo "Sync" t).length
  folderSyncs := (repliesTo "FolderSync" t).length
  provisions := (repliesTo "Provision" t).length
  passes := t.countP (·.1 = .acquire Locks.hierarchy)

instance : Zero Tally := ⟨⟨0, 0, 0, 0⟩⟩

instance : Add Tally :=
  ⟨fun a b => ⟨a.syncs + b.syncs, a.folderSyncs + b.folderSyncs, a.provisions + b.provisions,
    a.passes + b.passes⟩⟩

instance : LE Tally :=
  ⟨fun a b => a.syncs ≤ b.syncs ∧ a.folderSyncs ≤ b.folderSyncs ∧ a.provisions ≤ b.provisions ∧
    a.passes ≤ b.passes⟩

instance : DecidableLE Tally := fun _ _ => inferInstanceAs (Decidable (_ ∧ _))

variable {a b c d : Tally}

theorem le_iff : a ≤ b ↔ a.syncs ≤ b.syncs ∧ a.folderSyncs ≤ b.folderSyncs ∧
    a.provisions ≤ b.provisions ∧ a.passes ≤ b.passes :=
  Iff.rfl

@[simp] theorem syncs_add : (a + b).syncs = a.syncs + b.syncs := rfl

@[simp] theorem folderSyncs_add : (a + b).folderSyncs = a.folderSyncs + b.folderSyncs := rfl

@[simp] theorem provisions_add : (a + b).provisions = a.provisions + b.provisions := rfl

@[simp] theorem passes_add : (a + b).passes = a.passes + b.passes := rfl

theorem le_refl (a : Tally) : a ≤ a := by
  simp [le_iff]

theorem le_trans (h : a ≤ b) (h' : b ≤ c) : a ≤ c := by
  simp only [le_iff] at *
  omega

theorem add_le_add (h : a ≤ b) (h' : c ≤ d) : a + c ≤ b + d := by
  simp only [le_iff, syncs_add, folderSyncs_add, provisions_add, passes_add] at *
  omega

theorem le_of_add_le (h : a + b ≤ c) : a ≤ c ∧ b ≤ c := by
  simp only [le_iff, syncs_add, folderSyncs_add, provisions_add, passes_add] at *
  omega

theorem zero_le (a : Tally) : 0 ≤ a :=
  ⟨Nat.zero_le _, Nat.zero_le _, Nat.zero_le _, Nat.zero_le _⟩

theorem zero_add_le (a : Tally) : 0 + a ≤ a :=
  ⟨Nat.le_of_eq (Nat.zero_add _), Nat.le_of_eq (Nat.zero_add _), Nat.le_of_eq (Nat.zero_add _),
    Nat.le_of_eq (Nat.zero_add _)⟩

theorem add_zero_le (a : Tally) : a + 0 ≤ a := le_refl a

theorem of_append (t t' : List Asked) : of (t ++ t') = of t + of t' := by
  simp only [of, repliesTo_append, List.length_append, List.countP_append]
  rfl

/-- What one request of a command comes to. -/
def ofCommand (command : String) : Tally where
  syncs := if command = "Sync" then 1 else 0
  folderSyncs := if command = "FolderSync" then 1 else 0
  provisions := if command = "Provision" then 1 else 0
  passes := 0

theorem of_post (account : Account) (request : Request) (reply : Except TransportError Reply) :
    of [⟨.post account request, reply⟩] = ofCommand request.command := by
  simp only [of, ofCommand, repliesTo_post, apply_ite List.length]
  rfl

/-- What to take a lock comes to. -/
def ofLock (lock : String) : Tally := ⟨0, 0, 0, if lock = Locks.hierarchy then 1 else 0⟩

theorem of_acquire (lock : String) (taken : Bool) :
    of [⟨.acquire lock, taken⟩] = ofLock lock := by
  simp [of, ofLock, repliesTo, List.countP_singleton]

theorem ofLock_ofFolder (folder : String) : ofLock (Locks.ofFolder folder) = 0 := by
  rw [ofLock, if_neg (Locks.ofFolder_ne_hierarchy folder)]
  rfl

end Tally

/-- An effect that costs nothing. -/
def Effect.Free : Effect → Prop
  | post _ request => request.command ∉ ["Sync", "FolderSync", "Provision"]
  | acquire lock => lock ≠ Locks.hierarchy
  | _ => True

theorem Tally.of_free {t : List Asked} (h : ∀ x ∈ t, x.1.Free) : of t = 0 := by
  have hreplies {command : String} (hc : command ∈ ["Sync", "FolderSync", "Provision"]) :
      repliesTo command t = [] := by
    refine repliesTo_of_avoids fun ⟨e, answer⟩ hx => ?_
    have hfree : e.Free := h _ hx
    cases e with
    | post account request => exact fun he => hfree (he ▸ hc)
    | _ => trivial
  have htake : t.countP (·.1 = .acquire Locks.hierarchy) = 0 := by
    rw [List.countP_eq_zero]
    rintro ⟨e, answer⟩ hx he
    have hfree : e.Free := h _ hx
    obtain rfl : e = .acquire Locks.hierarchy := of_decide_eq_true he
    exact hfree rfl
  rw [of, hreplies (by decide), hreplies (by decide), hreplies (by decide), htake]
  rfl

end MailSync
