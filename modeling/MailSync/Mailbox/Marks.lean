import MailSync.Program
import MailSync.Text.Numeral
import MailSync.Window

/-!
# Marks in the mailbox

The extras that a sync keeps: the key of the hierarchy and the policy key with the account,
the key, the window and the marker of older messages with each folder.
-/
namespace MailSync.Mailbox
open Operation (ask)

def hierarchyKeyMark : String := "foldersSyncKey"

def policyKeyMark : String := "policyKey"

def keyMark : String := "syncKey"

def windowMark : String := "syncWindow"

def olderMark : String := "moreMessages"

def hierarchyKey : Operation (Option String) := ask (.extra hierarchyKeyMark)

def setHierarchyKey (key : Option String) : Operation Unit := ask (.setExtra hierarchyKeyMark key)

def policyKey : Operation (Option String) := ask (.extra policyKeyMark)

def setPolicyKey (key : Option String) : Operation Unit := ask (.setExtra policyKeyMark key)

def key (folder : String) : Operation (Option String) := ask (.folderExtra folder keyMark)

def setKey (folder : String) (key : Option String) : Operation Unit :=
  ask (.setFolderExtra folder keyMark key)

/-- The window that a mark states, if it is the code of one. -/
def windowOf? (mark : String) : Option Window := (Text.uint32? mark).bind Window.ofCode?

/-- The window chosen for a folder, if one was. -/
def window? (folder : String) : Operation (Option Window) := do
  let mark ← ask (.folderExtra folder windowMark)
  pure (mark.bind windowOf?)

def setWindow (folder : String) (window : Window) : Operation Unit :=
  tryCatch (ask (.setFolderExtra folder windowMark (some (toString window.code.toNat)))) fun e =>
    match e with
    | .storage cause => throw (.storage (.windowNotStored folder cause))
    | e => throw e

/-- Whether older messages are left out by the window, as far as known. -/
def hasOlder (folder : String) : Operation Bool := do
  let mark ← ask (.folderExtra folder olderMark)
  pure (mark ≠ some "false")

def setHasOlder (folder : String) (older : Bool) : Operation Unit :=
  ask (.setFolderExtra folder olderMark (some (if older then "true" else "false")))

end MailSync.Mailbox
