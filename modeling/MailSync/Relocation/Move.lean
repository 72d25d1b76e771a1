import MailSync.DevicePolicy.Handshake
import MailSync.Locks
import MailSync.Relocation.Document

/-!
# Moving messages between folders

The server moves messages and gives them new ids. A confirmed move is repeated in the
mailbox, with a copy under the new id before the old one is taken out. Without a reply all
moves are to be tried again.
-/
namespace MailSync.Relocation

def exchange (settings : ProtocolSettings) (items : List Item) (account : Account) :
    Program (Except Failure (List Response)) := do
  let command := "MoveItems"
  let reply ← Exchange.post account
    (Exchange.request command (request items) settings.commandTimeout)
  pure do
    let root ← Exchange.required command (← reply)
    match (root.childNumber? CodePage.Moves.status).bind Verdict.ofGlobal? with
    | some verdict => .error ⟨verdict, "MoveItems rejected"⟩
    | none => Exchange.ofDocument (responsesOfDocument root)

/-- Records what the first response for a message says. -/
def record (responses : List Response) (o : MoveOutcome) (id : String) : MoveOutcome :=
  match responses.find? (·.message = id) with
  | none => o.recordFailure id .retry
  | some r =>
    match r.itemStatus, r.newId with
    | .success, some newId => o.recordMoved id newId
    | status, _ => o.recordFailure id status

def outcomeOf (responses : List Response) (ids : List String) : MoveOutcome :=
  ids.foldl (record responses) .none

/-- Copies one moved message to its new place. -/
def copy (source target id newId : String) : Operation Unit := do
  match ← Operation.ask (.message source id) with
  | none => pure ()
  | some stored =>
    Operation.ask (.saveMessage target { stored.message with id := newId } stored.state)

/-- Repeats confirmed moves in the mailbox. -/
def relocate (source target : String) (moved : List (String × String)) : Operation Unit := do
  moved.forM fun (id, newId) => copy source target id newId
  if ¬moved.isEmpty then Operation.ask (.destroyMessages source (moved.map (·.1)))

def moveMessages (s : Session) (source target : String) (ids : List String) :
    Operation MoveOutcome :=
  if source = target then
    throw (.invalidArgument s!"cannot move messages within folder {source}")
  else if ids.isEmpty then pure .none
  else do
    requireFolder source
    requireFolder target
    Operation.withLock (Locks.ofFolder source) do
      match ← s.exchange (exchange s.settings (ids.map fun id => ⟨id, source, target⟩)) with
      | .ok responses =>
        let outcome := outcomeOf responses ids
        relocate source target outcome.moved
        pure outcome
      | .error f =>
        match f.verdict with
        | .network _ => pure { MoveOutcome.none with retry := ids }
        | _ => throw (f.toError "MoveItems")

end MailSync.Relocation
