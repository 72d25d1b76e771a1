import Std.Data.ExtTreeMap
import MailSync.Hierarchy.Delta
import MailSync.Mailbox.Call

/-!
# Replaying changes to the hierarchy

Changes are replayed over a map of folder records, and the difference to what is stored is
written. A folder whose type has no role is never added; a change without a type renames
and moves a folder that is there and keeps its role.
-/
namespace MailSync.Hierarchy
open Mailbox (Call)

abbrev Records := Std.ExtTreeMap String FolderRecord

def Records.ofList (folders : List FolderRecord) : Records :=
  folders.foldl (fun m f => m.insert f.id f) ∅

/-- The role that an entry states, if its type has one. -/
def Entry.role? (e : Entry) : Option FolderRole := e.type.bind FolderRole.ofTypeCode?

def Entry.record (e : Entry) (role : FolderRole) : FolderRecord := .under e.id e.name role e.parent

def Delta.apply (m : Records) : Delta → Records
  | .add e =>
    match e.role? with
    | some role => m.insert e.id (e.record role)
    | none => m
  | .change e =>
    match e.type, e.role? with
    | none, _ => m.modify e.id fun old => e.record old.role
    | some _, some role => m.insert e.id (e.record role)
    | some _, none => m
  | .remove id => m.erase id

/-- Whether a change adds a folder that is not kept. -/
def Delta.isSkipped : Delta → Bool
  | .add e => e.role?.isNone
  | _ => false

/-- The records after a batch. A reset starts from nothing. -/
def Batch.replay (b : Batch) (stored : Records) : Records :=
  b.deltas.foldl Delta.apply (if b.reset then ∅ else stored)

/-- The calls that turn the stored records into others, and what they come to. -/
structure Difference where
  removed : List String
  added : List FolderRecord
  /-- Folders that stay under another record, each with its old one. -/
  changed : List (FolderRecord × FolderRecord)
deriving Repr, DecidableEq

def Difference.between (stored after : Records) : Difference where
  removed := stored.keys.filter fun id => id ∉ after
  added := after.values.filter fun f => f.id ∉ stored
  changed := after.values.filterMap fun f =>
    match stored[f.id]? with
    | some old => if old = f then none else some (old, f)
    | none => none

/-- The call that gives a stored folder a new record. Only a new parent needs the whole
record. -/
def changeCall (old new : FolderRecord) : Call :=
  if old.parent = new.parent then .changeFolder new.id new.name new.role
  else .createFolders [new]

def Difference.calls (d : Difference) : List Call :=
  .deleteFolders d.removed :: .createFolders d.added ::
    d.changed.map fun (old, new) => changeCall old new

end MailSync.Hierarchy
