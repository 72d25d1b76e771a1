import MailSync.Text.Blank

/-!
# Mail addresses

An address with an optional display name, and lists of them. Commas and semicolons separate
the entries of a list, but not within double quotes.
-/
namespace MailSync

structure Address where
  name : Option String
  email : String
deriving Repr, DecidableEq

namespace Address
open Text (trim isBlank)

/-- What stands before and behind the last occurrence of a character. -/
def splitLast? (c : Char) : List Char → Option (List Char × List Char)
  | [] => none
  | d :: cs =>
    match splitLast? c cs with
    | some (before, behind) => some (d :: before, behind)
    | none => if d = c then some ([], cs) else none

/-- A display name without blanks and double quotes around it; none if nothing is left. -/
def displayName? (cs : List Char) : Option String :=
  let name := trim (Text.stripEnds (· = '"') (trim cs))
  if name = [] then none else some (String.ofList name)

/-- An entry is a name and an email in angle brackets, or the email alone. The brackets are
the last opening one and the last closing one, in this order. -/
def parse (cs : List Char) : Address :=
  let entry := trim cs
  match splitLast? '<' entry with
  | none => ⟨none, String.ofList entry⟩
  | some (before, behind) =>
    match splitLast? '>' behind with
    | none => ⟨none, String.ofList entry⟩
    | some (inside, _) => ⟨displayName? before, String.ofList (trim inside)⟩

/-- The pieces between separators that stand outside double quotes. -/
def pieces : Bool → List Char → List (List Char)
  | _, [] => [[]]
  | quoted, c :: cs =>
    if (c = ',' ∨ c = ';') ∧ quoted = false then [] :: pieces false cs
    else
      match pieces (if c = '"' then !quoted else quoted) cs with
      | [] => [[c]]
      | p :: ps => (c :: p) :: ps

/-- The entries of a list. Blank pieces are no entries. -/
def parseList (cs : List Char) : List Address :=
  ((pieces false cs).filter fun p => !p.all isBlank).map parse

def display (a : Address) : String :=
  match a.name with
  | some name => s!"{name} <{a.email}>"
  | none => a.email

/-- The written form in a list: the name in double quotes. -/
def quoted (a : Address) : String :=
  match a.name with
  | some name => s!"\"{name}\" <{a.email}>"
  | none => a.email

def joinList (as : List Address) : String := String.intercalate ", " (as.map quoted)

end Address
end MailSync
