import MailSync.CodePage
import MailSync.DocumentError
import MailSync.Hierarchy.Delta
import MailSync.Verdict

/-!
# Documents about the folder hierarchy

The request for changes, and the response, read and built. Building serves scripted servers.
-/
namespace MailSync.Hierarchy
open Wbxml (Element)
open CodePage

def request (key : String) : Element :=
  .node FolderHierarchy.folderSync [.text FolderHierarchy.syncKey key]

structure Response where
  status : UInt32
  key : Option String
  deltas : List Delta
deriving Repr, DecidableEq

def requireServerId (e : Element) : Except DocumentError String :=
  e.requireText FolderHierarchy.serverId "folder change" "ServerId"

def Entry.ofElement (e : Element) : Except DocumentError Entry := do
  let id ← requireServerId e
  let name := e.childText? FolderHierarchy.displayName
  .ok ⟨id, e.childText? FolderHierarchy.parentId, name.getD "",
    e.childNumber? FolderHierarchy.type⟩

/-- The change that an element states; none for a count and for kinds yet unknown. -/
def Delta.ofElement? (e : Element) : Except DocumentError (Option Delta) :=
  if e.tag = FolderHierarchy.add then (some ∘ .add) <$> Entry.ofElement e
  else if e.tag = FolderHierarchy.update then (some ∘ .change) <$> Entry.ofElement e
  else if e.tag = FolderHierarchy.delete then (some ∘ .remove) <$> requireServerId e
  else .ok none

def Response.ofDocument (root : Element) : Except DocumentError Response := do
  root.expectRoot FolderHierarchy.folderSync "FolderSync"
  let status ← root.requireNumber FolderHierarchy.status "FolderSync" "Status"
  let deltas ← match root.find? FolderHierarchy.changes with
    | none => .ok []
    | some changes => changes.children.mapM Delta.ofElement?
  .ok ⟨status, root.childText? FolderHierarchy.syncKey, deltas.filterMap id⟩

def verdict (status : UInt32) : Verdict :=
  if status = 1 then .ok
  else if status = 9 then .keyInvalid
  else if status = 6 ∨ status = 8 then .network .serverUnavailable
  else .ofCommand status

def Entry.toElements (e : Entry) : List Element :=
  [.text FolderHierarchy.serverId e.id, .text FolderHierarchy.parentId (e.parent.getD "0"),
    .text FolderHierarchy.displayName e.name] ++ (e.type.map (.number FolderHierarchy.type)).toList

def Delta.toElement : Delta → Element
  | .add e => .node FolderHierarchy.add e.toElements
  | .change e => .node FolderHierarchy.update e.toElements
  | .remove id => .node FolderHierarchy.delete [.text FolderHierarchy.serverId id]

def changesElement (deltas : List Delta) : Element :=
  .node FolderHierarchy.changes
    (.text FolderHierarchy.count (toString deltas.length) :: deltas.map Delta.toElement)

def Response.toDocument (r : Response) : Element :=
  .node FolderHierarchy.folderSync
    (.number FolderHierarchy.status r.status ::
      (r.key.map (.text FolderHierarchy.syncKey)).toList ++
      (if r.deltas.isEmpty then [] else [changesElement r.deltas]))

end MailSync.Hierarchy
