/-!
# Results of batches

What became of each message of a deletion or a move.
-/
namespace MailSync

inductive ItemStatus where
  /-- The server applied the change. -/
  | success
  /-- The server could not apply it now. -/
  | retry
  /-- The server refused it. -/
  | revert
deriving Repr, DecidableEq

structure DeleteOutcome where
  deleted : List String
  retry : List String
  revert : List String
deriving Repr, DecidableEq

namespace DeleteOutcome

def none : DeleteOutcome := ⟨[], [], []⟩

def record (o : DeleteOutcome) (id : String) : ItemStatus → DeleteOutcome
  | .success => { o with deleted := o.deleted ++ [id] }
  | .retry => { o with retry := o.retry ++ [id] }
  | .revert => { o with revert := o.revert ++ [id] }

def isComplete (o : DeleteOutcome) : Bool := o.retry.isEmpty && o.revert.isEmpty

end DeleteOutcome

/-- Only ids that the server confirmed with a new id count as moved. -/
structure MoveOutcome where
  /-- Old ids with their new ones; each old id once. -/
  moved : List (String × String)
  retry : List String
  revert : List String
deriving Repr, DecidableEq

namespace MoveOutcome

def none : MoveOutcome := ⟨[], [], []⟩

def newId? (o : MoveOutcome) (id : String) : Option String := o.moved.lookup id

/-- Puts a pair in place of the one with the same key, or at the end. -/
def put (k v : String) : List (String × String) → List (String × String)
  | [] => [(k, v)]
  | (k', v') :: rest => if k' = k then (k, v) :: rest else (k', v') :: put k v rest

def recordMoved (o : MoveOutcome) (id newId : String) : MoveOutcome :=
  { o with moved := put id newId o.moved }

/-- A success without a new id is not confirmed and is to be tried again. -/
def recordFailure (o : MoveOutcome) (id : String) : ItemStatus → MoveOutcome
  | .revert => { o with revert := o.revert ++ [id] }
  | .retry | .success => { o with retry := o.retry ++ [id] }

end MoveOutcome
end MailSync
