/-!
# JSON values

Integers and floating-point numbers are told apart. Fields keep their order, and a name
stands once.
-/
namespace MailSync

inductive Json where
  | null
  | bool (value : Bool)
  | integer (value : Int)
  | float (value : Float)
  | string (value : String)
  | array (items : List Json)
  | object (fields : List (String × Json))
deriving Repr, Inhabited

namespace Json

/-- The value of a field. A null stands for a field that is absent. -/
def field? (j : Json) (name : String) : Option Json :=
  match j with
  | object fields =>
    match fields.lookup name with
    | some null => none
    | found => found
  | _ => none

/-- An array as the object whose fields have these names, in order. -/
def withNames (names : List String) : Json → Json
  | array items => object (names.zip items)
  | j => j

/-- Puts a field among others that are in the order of their names. A field of the same name
gives way. -/
def insertField (name : String) (value : Json) : List (String × Json) → List (String × Json)
  | [] => [(name, value)]
  | (n, v) :: rest =>
    if name < n then (name, value) :: (n, v) :: rest
    else if name = n then (name, value) :: rest
    else (n, v) :: insertField name value rest

end Json
end MailSync
