import MailSync.CodePage
import MailSync.DocumentError
import MailSync.ItemStatus

/-!
# Documents about moves

The request names each message with the folder it is in and the one it goes to. The response
has a verdict for each, and the new id of a message that moved.
-/
namespace MailSync.Relocation
open Wbxml (Element)
open CodePage

structure Item where
  message : String
  source : String
  target : String
deriving Repr, DecidableEq

structure Response where
  message : String
  status : UInt32
  newId : Option String
deriving Repr, DecidableEq

/-- Moved, moved within its folder and already there are successes; a locked message may be
tried again. -/
def itemStatus (status : UInt32) : ItemStatus :=
  if status = 3 ∨ status = 4 ∨ status = 6 then .success
  else if status = 7 then .retry
  else .revert

def Response.itemStatus (r : Response) : ItemStatus := Relocation.itemStatus r.status

def Item.toElement (i : Item) : Element :=
  .node Moves.move [.text Moves.sourceMessage i.message, .text Moves.sourceFolder i.source,
    .text Moves.targetFolder i.target]

def request (items : List Item) : Element := .node Moves.moveItems (items.map Item.toElement)

def Response.ofElement (e : Element) : Except DocumentError Response := do
  let message ← e.requireText Moves.sourceMessage "MoveItems response" "SrcMsgId"
  let status ← e.requireNumber Moves.status "MoveItems response" "Status"
  .ok ⟨message, status, e.childText? Moves.targetMessage⟩

def responsesOfDocument (root : Element) : Except DocumentError (List Response) := do
  root.expectRoot Moves.moveItems "MoveItems"
  (root.findAll Moves.response).mapM Response.ofElement

def Response.toElement (r : Response) : Element :=
  .node Moves.response ([.text Moves.sourceMessage r.message, .number Moves.status r.status] ++
    (r.newId.map (.text Moves.targetMessage)).toList)

def responsesToDocument (rs : List Response) : Element :=
  .node Moves.moveItems (rs.map Response.toElement)

end MailSync.Relocation
