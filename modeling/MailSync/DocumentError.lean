import MailSync.Wbxml.Element

/-!
# Why a document has not the expected shape
-/
namespace MailSync

inductive DocumentError where
  | wrongRoot (expected : String) (found : Wbxml.Tag)
  | missing (owner field : String)
deriving Repr, DecidableEq

def DocumentError.message : DocumentError → String
  | wrongRoot expected found => s!"expected {expected}, got {found.label}"
  | missing owner field => s!"{owner} without {field}"

namespace Wbxml.Element

/-- Fails unless the element is of a certain kind. -/
def expectRoot (e : Element) (tag : Tag) (name : String) : Except DocumentError Unit :=
  if e.tag = tag then .ok () else .error (.wrongRoot name e.tag)

def requireText (e : Element) (tag : Tag) (owner field : String) :
    Except DocumentError String :=
  match e.childText? tag with
  | some s => .ok s
  | none => .error (.missing owner field)

def requireNumber (e : Element) (tag : Tag) (owner field : String) :
    Except DocumentError UInt32 :=
  match e.childNumber? tag with
  | some n => .ok n
  | none => .error (.missing owner field)

end Wbxml.Element
end MailSync
