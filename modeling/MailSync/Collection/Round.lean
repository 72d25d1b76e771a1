import MailSync.Collection.Document
import MailSync.Exchange
import MailSync.SyncKey

/-!
# One round about a collection

A round that starts afresh only hands out a key; the data comes with the next one, so it
always counts as unfinished. A reply without a body means that nothing changed since the key.
-/
namespace MailSync.Collection
open Wbxml (Element)

/-- What the response of a round comes to, for the key that was sent. -/
def roundOf (collection : String) (key : Option String) (r : Response) :
    Except Failure (Round Batch) :=
  let fresh := SyncKey.isInitial key
  let verdict := Collection.verdict r.status
  if verdict = .ok then
    match r.key, fresh with
    | none, true => .error (.malformed "Sync without SyncKey")
    | newKey, _ =>
      .ok ⟨newKey.getD (SyncKey.sent key), r.moreAvailable || fresh,
        ⟨fresh, r.deltas, r.responses⟩⟩
  else .error ⟨verdict, s!"Sync status {r.status.toNat} for collection {collection}"⟩

/-- What the document of a reply comes to, or its absence. -/
def roundOfDocument (collection : String) (key : Option String) :
    Option Element → Except Failure (Round Batch)
  | none =>
    if SyncKey.isInitial key then .error (.malformed "empty Sync response to initial key")
    else .ok ⟨SyncKey.sent key, false, .none⟩
  | some root => do
    roundOf collection key (← Exchange.ofDocument (Response.ofDocument root collection))

/-- Asks for the changes since a key, and sends commands along. -/
def exchange (settings : ProtocolSettings) (account : Account) (request : Request)
    (key : Option String) : Program (Except Failure (Round Batch)) := do
  let command := "Sync"
  let root := request.toDocument (SyncKey.sent key) (SyncKey.isInitial key)
  let reply ← Exchange.post account (Exchange.request command root settings.commandTimeout)
  pure do roundOfDocument request.collection key (← reply)

end MailSync.Collection
