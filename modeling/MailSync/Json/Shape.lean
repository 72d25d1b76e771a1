import MailSync.Json.Value

/-!
# Shapes of JSON values

What a reader expects at a place in a text, and how a text can disappoint it.
-/
namespace MailSync.Json

inductive Shape where
  | any
  /-- A value that is read over. -/
  | skipped
  | string
  | bool
  /-- An integer from zero up to a limit, which is left out. -/
  | natural (limit : Nat)
  | float
  /-- Null or a value. -/
  | optional (shape : Shape)
  /-- One of some names. -/
  | choice (names : List String)
  /-- An object with known fields, or an array of their values in order. Each field has a name
  and says whether it must be there. Fields of other names are read over. -/
  | record (fields : List (String × Bool × Shape))
deriving Repr

/-- The names of a record's fields, in order. -/
def Shape.names : Shape → List String
  | .record fields => fields.map (·.1)
  | _ => []

inductive Fault where
  /-- The text is not JSON. -/
  | grammar
  /-- The text is JSON, as far as it was read, and not of the expected shape. -/
  | mismatch
  /-- The text ends too soon. -/
  | unfinished
deriving Repr, DecidableEq

def Fault.message : Fault → String
  | .grammar => "not JSON"
  | .mismatch => "not the expected values"
  | .unfinished => "the text ends too soon"

end MailSync.Json
