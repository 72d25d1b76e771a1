import MailSync.Message

/-!
# Changes to the content of a folder

A folder's messages form a collection. The server reports changes to it and verdicts on the
client's own commands; the client sends commands of its own.
-/
namespace MailSync.Collection

inductive Command where
  | fetch (id : String)
  | delete (id : String)
  | flag (id : String) (flag : Flag) (state : Bool)
deriving Repr, DecidableEq

def Command.isDelete : Command → Bool
  | .delete _ => true
  | _ => false

def Command.id : Command → String
  | .fetch id | .delete id | .flag id _ _ => id

inductive Delta where
  | add (message : Message)
  | flag (id : String) (flag : Flag) (state : Bool)
  | delete (id : String)
deriving Repr, DecidableEq

/-- The message that a change brings. -/
def Delta.message? : Delta → Option Message
  | .add m => some m
  | _ => none

inductive ResponseKind where
  | add | change | delete | fetch
deriving Repr, DecidableEq

/-- The server's verdict on one command of the client. -/
structure ItemResponse where
  id : String
  kind : ResponseKind
  status : UInt32
deriving Repr, DecidableEq

/-- What one or more rounds brought. -/
structure Batch where
  /-- The collection was restarted: its local messages go first. -/
  reset : Bool
  deltas : List Delta
  responses : List ItemResponse
deriving Repr, DecidableEq

namespace Batch

def none : Batch := ⟨false, [], []⟩

def extend (a b : Batch) : Batch :=
  ⟨a.reset || b.reset, a.deltas ++ b.deltas, a.responses ++ b.responses⟩

/-- The last status reported for a command of a kind on a message. -/
def status? (b : Batch) (id : String) (kind : ResponseKind) : Option UInt32 :=
  (b.responses.reverse.find? fun r => r.kind = kind ∧ r.id = id).map (·.status)

end Batch
end MailSync.Collection
