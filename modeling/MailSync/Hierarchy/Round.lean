import MailSync.Exchange
import MailSync.Hierarchy.Document
import MailSync.SyncKey

/-!
# One round about the folder hierarchy

A round that starts afresh names every folder, so its batch is a reset. Servers never split
a round.
-/
namespace MailSync.Hierarchy

/-- What the response of a round comes to. -/
def roundOf (fresh : Bool) (r : Response) : Except Failure (Round Batch) :=
  let verdict := Hierarchy.verdict r.status
  if verdict = .ok then
    match r.key with
    | some key => .ok ⟨key, false, ⟨fresh, r.deltas⟩⟩
    | none => .error (.malformed "FolderSync without SyncKey")
  else .error ⟨verdict, s!"FolderSync status {r.status.toNat}"⟩

/-- Asks for the changes since a key. -/
def exchange (settings : ProtocolSettings) (account : Account) (key : Option String) :
    Program (Except Failure (Round Batch)) := do
  let command := "FolderSync"
  let fresh := SyncKey.isInitial key
  let timeout := if fresh then settings.initialTimeout else settings.commandTimeout
  let reply ← Exchange.post account (Exchange.request command (request (SyncKey.sent key)) timeout)
  pure do
    let root ← Exchange.required command (← reply)
    roundOf fresh (← Exchange.ofDocument (Response.ofDocument root))

end MailSync.Hierarchy
