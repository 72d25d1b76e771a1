import MailSync.Collection.Pass

/-!
# Choosing a folder's window
-/
namespace MailSync.Collection

def setWindow (folder : String) (window : Window) : Operation Unit := do
  requireFolder folder
  Mailbox.setWindow folder window

/-- Widens a window by one step. Answers whether there was one. -/
def widen (folder : String) : Operation Bool := do
  match (← windowOf folder).next? with
  | none => pure false
  | some window =>
    Mailbox.setWindow folder window
    if window = .all then Mailbox.setHasOlder folder false
    pure true

end MailSync.Collection
