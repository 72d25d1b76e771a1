import MailSync.Collection.Delta
import MailSync.Program

/-!
# Writing a batch to a folder

A reset empties the folder first; then the changes are written one by one, in order. When
whole bodies were asked for, a message that is cut short again is taken out.
-/
namespace MailSync.Collection
open Mailbox (Call)

inductive Bodies where
  /-- A message may be cut short. -/
  | any
  /-- A message that is cut short is of no use. -/
  | whole
deriving Repr, DecidableEq

def Bodies.rejects (b : Bodies) (m : Message) : Bool := b = .whole && m.truncated

/-- The call that writes one change. -/
def Delta.call (folder : String) (bodies : Bodies) : Delta → Call
  | .add m =>
    if bodies.rejects m then .destroyMessages folder [m.id]
    else .saveMessage folder m m.downloadState
  | .flag id which state => .setFlag folder id which state
  | .delete id => .destroyMessages folder [id]

/-- Writes one change. Answers whether it changed the flag of a message. -/
def Delta.write (folder : String) (bodies : Bodies) (d : Delta) : Operation Bool :=
  match d with
  | .flag id which state => Operation.ask (.setFlag folder id which state)
  | _ => do
    discard (Operation.ask (d.call folder bodies))
    pure false

/-- Writes changes in order. Counts the changed flags. -/
def writeAll (folder : String) (bodies : Bodies) : List Delta → Operation Nat
  | [] => pure 0
  | d :: ds => do
    let changed ← d.write folder bodies
    let others ← writeAll folder bodies ds
    pure (if changed then others + 1 else others)

/-- Writes a batch. Counts the changed flags. -/
def Batch.write (folder : String) (bodies : Bodies) (b : Batch) : Operation Nat := do
  if b.reset then Operation.ask (.removeAllMessages folder)
  writeAll folder bodies b.deltas

namespace Batch

/-- The messages that a batch brings, in order. -/
def added (b : Batch) : List Message := b.deltas.filterMap Delta.message?

/-- The added messages that are there in full. -/
def completed (b : Batch) : List Message := b.added.filter fun m => !m.truncated

/-- The ids that are taken out because their messages were cut short. -/
def rejected (b : Batch) (bodies : Bodies) : List String :=
  (b.added.filter bodies.rejects).map (·.id)

def deletions (b : Batch) : Nat :=
  b.deltas.countP fun d =>
    match d with
    | .delete _ => true
    | _ => false

end Batch
end MailSync.Collection
