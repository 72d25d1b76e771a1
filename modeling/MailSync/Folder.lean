/-!
# Folders

The role of a folder follows from the type code that the server gives it. Calendars,
contacts and other folders without mail have no role and are never stored.
-/
namespace MailSync

inductive FolderRole where
  | regular | inbox | drafts | outbox | sent | trash
deriving Repr, DecidableEq

namespace FolderRole

def ofTypeCode? (code : UInt32) : Option FolderRole :=
  if code = 1 ∨ code = 12 then some .regular
  else if code = 2 then some .inbox
  else if code = 3 then some .drafts
  else if code = 4 then some .trash
  else if code = 5 then some .sent
  else if code = 6 then some .outbox
  else none

def name : FolderRole → String
  | regular => "regular"
  | inbox => "inbox"
  | drafts => "drafts"
  | outbox => "outbox"
  | sent => "sent"
  | trash => "trash"

def ofName? (s : String) : Option FolderRole :=
  [regular, inbox, drafts, outbox, sent, trash].find? (·.name = s)

theorem ofName?_name (r : FolderRole) : ofName? r.name = some r := by
  cases r <;> decide

end FolderRole

structure FolderRecord where
  id : String
  name : String
  role : FolderRole
  /-- Absent for folders at the top. -/
  parent : Option String
deriving Repr, DecidableEq

namespace FolderRecord

/-- The server writes the root as "0"; that and the empty text mean no parent. -/
def parentOf (parent : Option String) : Option String :=
  parent.filter fun p => p ≠ "" && p ≠ "0"

def under (id name : String) (role : FolderRole) (parent : Option String) : FolderRecord :=
  ⟨id, name, role, parentOf parent⟩

theorem parentOf_parentOf (p : Option String) : parentOf (parentOf p) = parentOf p := by
  simp only [parentOf, Option.filter_filter, Bool.and_self]

end FolderRecord
end MailSync
