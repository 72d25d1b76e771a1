import MailSync.Collection.MessageData
import MailSync.DocumentError
import MailSync.Verdict
import MailSync.Window

/-!
# Documents about a collection

The request of one round, and the response, read and built. A request without a key carries
neither options nor commands, since the server takes them only against a key. The response
is taken from the collection asked for, or else from the first one.
-/
namespace MailSync.Collection
open Wbxml (Element)
open CodePage

/-- Bytes of a message asked for in a plain round. -/
def truncationSize : UInt32 := 200000

structure Request where
  collection : String
  window : Window
  windowSize : UInt32
  getChanges : Bool
  deletesAsMoves : Bool
  /-- None asks for whole bodies. -/
  truncation : Option UInt32
  commands : List Command
deriving Repr, DecidableEq

def Command.toElement : Command → Element
  | .fetch id => .node AirSync.fetch [.text AirSync.serverId id]
  | .delete id => .node AirSync.delete [.text AirSync.serverId id]
  | .flag id which state =>
    .node AirSync.change [.text AirSync.serverId id, flagData which state]

def Request.options (r : Request) : Element :=
  .node AirSync.options [.number AirSync.filterType r.window.code,
    .text AirSync.mimeSupport "2",
    .node Body.preference (.text Body.type "4" ::
      (r.truncation.map (.number Body.truncationSize)).toList)]

def Request.settings (r : Request) : List Element :=
  [.text AirSync.deletesAsMoves (bit r.deletesAsMoves),
    .text AirSync.getChanges (bit r.getChanges),
    .number AirSync.windowSize r.windowSize, r.options] ++
    (if r.commands.isEmpty then []
      else [.node AirSync.commands (r.commands.map Command.toElement)])

def wrap (collection : List Element) : Element :=
  .node AirSync.sync [.node AirSync.collections [.node AirSync.collection collection]]

def Request.toDocument (r : Request) (key : String) (initial : Bool) : Element :=
  wrap ([.text AirSync.syncKey key, .text AirSync.collectionId r.collection] ++
    (if initial then [] else r.settings))

structure Response where
  status : UInt32
  key : Option String
  moreAvailable : Bool
  deltas : List Delta
  responses : List ItemResponse
deriving Repr, DecidableEq

def requireServerId (e : Element) : Except DocumentError String :=
  e.requireText AirSync.serverId "Sync command" "ServerId"

/-- The changes that a command of the server states. -/
def deltasOf (e : Element) : Except DocumentError (List Delta) :=
  if e.tag = AirSync.add then do
    let id ← requireServerId e
    match e.find? AirSync.applicationData with
    | some data => .ok [.add (messageOf id data)]
    | none => .ok [.add (.blank id)]
  else if e.tag = AirSync.change then do
    let id ← requireServerId e
    match e.find? AirSync.applicationData with
    | some data => .ok ((flagsStated data).map fun (flag, state) => .flag id flag state)
    | none => .ok []
  else if e.tag = AirSync.delete ∨ e.tag = AirSync.softDelete then do
    let id ← requireServerId e
    .ok [.delete id]
  else .ok []

def ResponseKind.ofTag? (tag : Wbxml.Tag) : Option ResponseKind :=
  if tag = AirSync.add then some .add
  else if tag = AirSync.change then some .change
  else if tag = AirSync.delete then some .delete
  else if tag = AirSync.fetch then some .fetch
  else none

def ResponseKind.tag : ResponseKind → Wbxml.Tag
  | .add => AirSync.add
  | .change => AirSync.change
  | .delete => AirSync.delete
  | .fetch => AirSync.fetch

/-- The verdict that an element of the responses states. Without a status it is a success. -/
def ItemResponse.ofElement? (e : Element) : Option ItemResponse := do
  let kind ← ResponseKind.ofTag? e.tag
  let id ← e.childText? AirSync.serverId
  some ⟨id, kind, (e.childNumber? AirSync.status).getD statusOk⟩

/-- The message that a successful fetch brings. -/
def fetched? (e : Element) : Option Delta := do
  let r ← ItemResponse.ofElement? e
  let data ← e.find? AirSync.applicationData
  if r.kind = .fetch ∧ r.status = statusOk then some (.add (messageOf r.id data)) else none

def choose? (root : Element) (collection : String) : Option Element :=
  let all := match root.find? AirSync.collections with
    | some e => e.findAll AirSync.collection
    | none => []
  match all.find? fun e => e.childText? AirSync.collectionId = some collection with
  | some e => some e
  | none => all.head?

def childrenOf (e : Element) (tag : Wbxml.Tag) : List Element :=
  match e.find? tag with
  | some block => block.children
  | none => []

def Response.ofCollection (e : Element) : Except DocumentError Response := do
  let status ← e.requireNumber AirSync.status "Sync collection" "Status"
  let changes ← (childrenOf e AirSync.commands).mapM deltasOf
  let items := childrenOf e AirSync.responses
  .ok ⟨status, e.childText? AirSync.syncKey, e.has AirSync.moreAvailable,
    changes.flatten ++ items.filterMap fetched?, items.filterMap ItemResponse.ofElement?⟩

def Response.ofDocument (root : Element) (collection : String) :
    Except DocumentError Response := do
  root.expectRoot AirSync.sync "Sync"
  match choose? root collection with
  | some e => Response.ofCollection e
  | none =>
    let status ← root.requireNumber AirSync.status "Sync response" "collection or status"
    .ok ⟨status, none, false, [], []⟩

def verdict (status : UInt32) : Verdict :=
  if status = 1 then .ok
  else if status = 3 then .keyInvalid
  else if status = 12 ∨ status = 8 then .hierarchyChanged
  else if status = 5 ∨ status = 16 then .network .serverUnavailable
  else .ofCommand status

def ItemResponse.isFetched (r : ItemResponse) (id : String) : Bool :=
  r.kind = .fetch && r.status = statusOk && r.id = id

/-- The command that states a change; none for an added message that a fetch carries. -/
def Delta.toElement? (responses : List ItemResponse) : Delta → Option Element
  | .add m =>
    if responses.any (·.isFetched m.id) then none
    else some (.node AirSync.add [.text AirSync.serverId m.id, messageData m])
  | .flag id which state => some (Command.flag id which state).toElement
  | .delete id => some (Command.delete id).toElement

/-- A verdict as an element. A fetch carries the first added message with its id. -/
def ItemResponse.toElement (deltas : List Delta) (r : ItemResponse) : Element :=
  .node r.kind.tag ([.text AirSync.serverId r.id, .number AirSync.status r.status] ++
    (if r.kind = .fetch then
      (((deltas.filterMap Delta.message?).find? (·.id = r.id)).map messageData).toList
    else []))

def Response.toDocument (collection : String) (r : Response) : Element :=
  let commands := r.deltas.filterMap (Delta.toElement? r.responses)
  wrap ((r.key.map (.text AirSync.syncKey)).toList ++
    [.text AirSync.collectionId collection, .number AirSync.status r.status] ++
    (if r.moreAvailable then [.empty AirSync.moreAvailable] else []) ++
    (if commands.isEmpty then [] else [.node AirSync.commands commands]) ++
    (if r.responses.isEmpty then []
      else [.node AirSync.responses (r.responses.map (ItemResponse.toElement r.deltas))]))

end MailSync.Collection
