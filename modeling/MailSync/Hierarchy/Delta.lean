import MailSync.Folder

/-!
# Changes to the folder hierarchy

One change as the server reports it, and the changes of one or more rounds together.
-/
namespace MailSync.Hierarchy

/-- A folder as the server describes it. -/
structure Entry where
  id : String
  parent : Option String
  name : String
  type : Option UInt32
deriving Repr, DecidableEq

inductive Delta where
  | add (entry : Entry)
  | change (entry : Entry)
  | remove (id : String)
deriving Repr, DecidableEq

def Delta.id : Delta → String
  | add e | change e => e.id
  | remove id => id

structure Batch where
  /-- The hierarchy was restarted, and the changes name every folder. -/
  reset : Bool
  deltas : List Delta
deriving Repr, DecidableEq

def Batch.none : Batch := ⟨false, []⟩

def Batch.extend (a b : Batch) : Batch := ⟨a.reset || b.reset, a.deltas ++ b.deltas⟩

end MailSync.Hierarchy
