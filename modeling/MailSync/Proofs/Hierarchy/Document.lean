import MailSync.Hierarchy.Document
import MailSync.Proofs.Wbxml.Parts
import MailSync.Proofs.Wbxml.Plain

/-!
# Responses about the hierarchy, built and read back

The document for a response keeps all of it but the difference between a folder that names no parent
and one under the root. The wire takes the NUL characters out of its texts, and nothing else.
-/
namespace MailSync.Hierarchy
open Text (NoNul)
open Wbxml (Element Part Tag)
open CodePage

/-! ### What comes back -/

/-- A folder that names no parent is at the root. -/
def Entry.rooted (e : Entry) : Entry := { e with parent := some (e.parent.getD "0") }

def Delta.rooted : Delta → Delta
  | .add e => .add e.rooted
  | .change e => .change e.rooted
  | .remove id => .remove id

def Response.rooted (r : Response) : Response := { r with deltas := r.deltas.map Delta.rooted }

def Entry.withoutNul (e : Entry) : Entry where
  id := Text.withoutNul e.id
  parent := e.parent.map Text.withoutNul
  name := Text.withoutNul e.name
  type := e.type

def Delta.withoutNul : Delta → Delta
  | .add e => .add e.withoutNul
  | .change e => .change e.withoutNul
  | .remove id => .remove (Text.withoutNul id)

def Response.withoutNul (r : Response) : Response where
  status := r.status
  key := r.key.map Text.withoutNul
  deltas := r.deltas.map Delta.withoutNul

/-! ### What is stated is read -/

/-- The parts that the element of a folder can have. -/
def Entry.parts (e : Entry) : List Part :=
  [.text FolderHierarchy.serverId (some e.id),
    .text FolderHierarchy.parentId (some (e.parent.getD "0")),
    .text FolderHierarchy.displayName (some e.name),
    ⟨FolderHierarchy.type, e.type.map (.number FolderHierarchy.type)⟩]

theorem Entry.toElements_eq (e : Entry) : e.toElements = Part.children e.parts := by
  simp only [parts, Part.children_cons, Part.children_nil, Part.text, List.append_nil]
  rfl

theorem Entry.proper_parts (e : Entry) : Part.Proper e.parts := by
  constructor
  · simp only [parts, List.forall_mem_cons]
    exact ⟨Part.tag_of_mem_text _ _, Part.tag_of_mem_text _ _, Part.tag_of_mem_text _ _,
      Option.forall_mem_map.mpr fun _ _ => rfl, nofun⟩
  · exact (by decide : List.Nodup [FolderHierarchy.serverId, FolderHierarchy.parentId,
      FolderHierarchy.displayName, FolderHierarchy.type])

/-- A folder is read from the element that states it, whatever the tag of the element. -/
theorem Entry.ofElement_toElements (e : Entry) (owner : Tag) :
    Entry.ofElement (.node owner e.toElements) = .ok e.rooted := by
  have hfind (tag : Tag) := e.proper_parts.find?_node owner tag
  rw [e.toElements_eq]
  generalize Element.node owner (Part.children e.parts) = element at hfind
  have hid : element.childText? FolderHierarchy.serverId = some e.id :=
    Element.childText?_of_find? (hfind _)
  have hparent : element.childText? FolderHierarchy.parentId = some (e.parent.getD "0") :=
    Element.childText?_of_find? (hfind _)
  have hname : element.childText? FolderHierarchy.displayName = some e.name :=
    Element.childText?_of_find? (hfind _)
  have htype : element.childNumber? FolderHierarchy.type = e.type := by
    have hpart : element.find? FolderHierarchy.type =
      e.type.map (.number FolderHierarchy.type) := hfind _
    cases hcode : e.type with
    | none => rw [Element.childNumber?, Element.childText?, hpart, hcode]; rfl
    | some code => exact Element.childNumber?_of_find? (by rw [hpart, hcode]; rfl)
  rw [Entry.ofElement, requireServerId, Element.requireText, hid, hparent, hname, htype]
  rfl

theorem Delta.ofElement?_toElement (d : Delta) :
    Delta.ofElement? d.toElement = .ok (some d.rooted) := by
  cases d with
  | add e =>
    change (some ∘ Delta.add) <$> Entry.ofElement (.node FolderHierarchy.add e.toElements) = _
    rw [e.ofElement_toElements]
    rfl
  | change e =>
    change (some ∘ Delta.change) <$> Entry.ofElement (.node FolderHierarchy.update e.toElements) = _
    rw [e.ofElement_toElements]
    rfl
  | remove id => rfl

/-- The count in front of the changes is passed over, and they keep their order. -/
theorem mapM_changesElement (deltas : List Delta) :
    (changesElement deltas).children.mapM Delta.ofElement? =
      .ok (none :: deltas.map (some ∘ Delta.rooted)) := by
  have hchanges : (deltas.map Delta.toElement).mapM Delta.ofElement? =
      .ok (deltas.map (some ∘ Delta.rooted)) := by
    induction deltas with
    | nil => rfl
    | cons d deltas ih =>
      rw [List.map_cons, List.mapM_cons, d.ofElement?_toElement, ih]
      rfl
  change (Element.text FolderHierarchy.count _ :: deltas.map Delta.toElement).mapM
    Delta.ofElement? = _
  rw [List.mapM_cons, hchanges]
  rfl

/-- The parts that the document for a response can have. -/
def Response.parts (r : Response) : List Part :=
  [⟨FolderHierarchy.status, some (.number FolderHierarchy.status r.status)⟩,
    .text FolderHierarchy.syncKey r.key,
    ⟨FolderHierarchy.changes, if r.deltas.isEmpty then none else some (changesElement r.deltas)⟩]

theorem Response.toDocument_eq (r : Response) :
    r.toDocument = .node FolderHierarchy.folderSync (Part.children r.parts) := by
  simp only [parts, Part.children_cons, Part.children_nil, Part.text, apply_ite Option.toList,
    Option.toList_some, Option.toList_none, List.append_nil]
  rfl

theorem Response.proper_parts (r : Response) : Part.Proper r.parts := by
  constructor
  · simp only [parts, List.forall_mem_cons]
    refine ⟨?_, Part.tag_of_mem_text _ _, ?_, nofun⟩
    · rintro _ ⟨⟩
      rfl
    · split_ifs <;> rintro _ ⟨⟩
      rfl
  · exact (by decide : List.Nodup [FolderHierarchy.status, FolderHierarchy.syncKey,
      FolderHierarchy.changes])

theorem Response.ofDocument_toDocument (r : Response) :
    Response.ofDocument r.toDocument = .ok r.rooted := by
  have hfind (tag : Tag) := r.proper_parts.find?_node FolderHierarchy.folderSync tag
  have hroot : r.toDocument.tag = FolderHierarchy.folderSync := rfl
  rw [r.toDocument_eq] at hroot ⊢
  -- From here on only what is found under each tag matters, not the element itself.
  generalize Element.node FolderHierarchy.folderSync (Part.children r.parts) = root at hroot hfind
  have hstatus :
      root.requireNumber FolderHierarchy.status "FolderSync" "Status" = .ok r.status := by
    rw [Element.requireNumber, Element.childNumber?_of_find? (hfind _)]
  have hkey : root.childText? FolderHierarchy.syncKey = r.key :=
    Element.childText?_of_find? (hfind _)
  have hchanges : root.find? FolderHierarchy.changes =
    if r.deltas.isEmpty then none else some (changesElement r.deltas) := hfind _
  rw [Response.ofDocument, Element.expectRoot, if_pos hroot, hstatus, hkey, hchanges]
  cases hdeltas : r.deltas with
  | nil =>
    rw [Response.rooted, hdeltas]
    rfl
  | cons d deltas =>
    have hkept : (none :: (d :: deltas).map (some ∘ Delta.rooted)).filterMap id =
        (d :: deltas).map Delta.rooted := by
      rw [List.filterMap_cons_none rfl, List.filterMap_map, Function.id_comp,
        List.filterMap_eq_map]
    rw [Response.rooted, hdeltas, ← hkept]
    change ((changesElement (d :: deltas)).children.mapM Delta.ofElement? >>= _) = _
    rw [mapM_changesElement]
    rfl

/-! ### The way over the wire -/

theorem Entry.toElements_withoutNul (e : Entry) :
    e.toElements.map Element.withoutNul = e.withoutNul.toElements := by
  obtain ⟨id, parent, name, type⟩ := e
  cases parent <;> cases type <;>
    simp only [toElements, withoutNul, Option.map_none, Option.map_some, Option.toList_none,
      Option.toList_some, Option.getD_none, Option.getD_some, List.map_cons, List.map_nil,
      List.map_append, Element.withoutNul_text, Element.withoutNul_number]
  all_goals rfl

theorem Delta.toElement_withoutNul (d : Delta) :
    d.toElement.withoutNul = d.withoutNul.toElement := by
  cases d with
  | add e | change e =>
    simp only [toElement, withoutNul, Element.withoutNul_node, e.toElements_withoutNul]
  | remove id => rfl

theorem Response.toDocument_withoutNul (r : Response) :
    r.toDocument.withoutNul = r.withoutNul.toDocument := by
  obtain ⟨status, key, deltas⟩ := r
  have hchanges : (changesElement deltas).withoutNul =
      changesElement (deltas.map Delta.withoutNul) := by
    have hcount : NoNul (toString deltas.length) := fun h =>
      absurd (Text.isDigit_of_mem_toString h) (by decide)
    simp only [changesElement, Element.withoutNul_node, List.map_cons, Element.withoutNul_text,
      hcount.withoutNul_eq, List.map_map, Function.comp_def, Delta.toElement_withoutNul,
      List.length_map]
  have hkey : (key.map (Element.text FolderHierarchy.syncKey)).toList.map Element.withoutNul =
      ((key.map Text.withoutNul).map (Element.text FolderHierarchy.syncKey)).toList := by
    cases key <;> rfl
  simp only [toDocument, withoutNul, Element.withoutNul_node, List.map_cons, List.map_append,
    Element.withoutNul_number, hkey, apply_ite (List.map Element.withoutNul), List.map_nil,
    hchanges, List.isEmpty_map]

theorem Entry.faithful_parts (e : Entry) {n : Nat} :
    ∀ p ∈ e.withoutNul.parts, ∀ c ∈ p.child?, c.Faithful n := by
  have hparent : NoNul ((e.parent.map Text.withoutNul).getD "0") := by
    cases e.parent with
    | none => decide
    | some parent => exact Text.noNul_withoutNul parent
  have hpart (tag : Tag) (htag : tag.Writable) (s : String) (hs : NoNul s) :
      ∀ c ∈ (Part.text tag (some s)).child?, c.Faithful n := by
    refine Part.faithful_text htag ?_
    rintro _ ⟨⟩
    exact hs
  simp only [parts, withoutNul, List.forall_mem_cons]
  refine ⟨hpart _ (by decide) _ (Text.noNul_withoutNul e.id), hpart _ (by decide) _ hparent,
    hpart _ (by decide) _ (Text.noNul_withoutNul e.name), ?_, nofun⟩
  exact Option.forall_mem_map.mpr fun code _ => Element.faithful_number (by decide) code

theorem Delta.faithful_toElement (d : Delta) : d.withoutNul.toElement.Faithful 1 := by
  cases d with
  | add e | change e =>
    simp only [withoutNul, toElement, e.withoutNul.toElements_eq]
    exact Part.faithful_node (by decide) e.faithful_parts
  | remove id =>
    have hid : (Element.text FolderHierarchy.serverId (Text.withoutNul id)).Faithful 0 :=
      Element.faithful_text (by decide) (Text.noNul_withoutNul id)
    exact Element.faithful_node (by decide) (List.forall_mem_singleton.mpr hid)

theorem Response.faithful_parts (r : Response) :
    ∀ p ∈ r.withoutNul.parts, ∀ e ∈ p.child?, e.Faithful 2 := by
  have hkey : ∀ key ∈ r.withoutNul.key, NoNul key :=
    Option.forall_mem_map.mpr fun key _ => Text.noNul_withoutNul key
  have hchanges : (changesElement r.withoutNul.deltas).Faithful 2 := by
    have hcount : (Element.text FolderHierarchy.count
        (toString r.withoutNul.deltas.length)).Faithful 1 :=
      Element.faithful_text (by decide) fun h =>
        absurd (Text.isDigit_of_mem_toString h) (by decide)
    refine Element.faithful_node (by decide) (List.forall_mem_cons.mpr ⟨hcount, ?_⟩)
    refine List.forall_mem_map.mpr (List.forall_mem_map.mpr fun d _ => ?_)
    exact d.faithful_toElement
  simp only [parts, List.forall_mem_cons]
  refine ⟨?_, Part.faithful_text (by decide) hkey, ?_, nofun⟩
  · rintro _ ⟨⟩
    exact Element.faithful_number (by decide) _
  · split_ifs <;> rintro _ ⟨⟩
    exact hchanges

/-- What the bytes of a response are read as. -/
theorem Response.decode_encode_toDocument (r : Response) :
    Wbxml.decode r.toDocument.encode = .ok r.withoutNul.toDocument := by
  have hfaithful : r.toDocument.withoutNul.Faithful Wbxml.maxDepth := by
    rw [r.toDocument_withoutNul, r.withoutNul.toDocument_eq]
    exact (Part.faithful_node (by decide) r.faithful_parts).mono (by decide)
  rw [Element.decode_encode_of_withoutNul hfaithful, r.toDocument_withoutNul]

/-- Any response about the hierarchy comes back over the wire: the same status, the same key, and
the same changes of the same kinds in the same order, types and names as they were, absent and empty
ones too. Only the NUL characters of its texts are gone, and a folder that was added or changed
under no parent is under the root. -/
theorem hierarchy_comes_back (r : Response) :
    ∃ root, Wbxml.decode r.toDocument.encode = .ok root ∧
      Response.ofDocument root = .ok ⟨r.status, r.key.map Text.withoutNul,
        r.deltas.map fun d => d.withoutNul.rooted⟩ := by
  have hrooted : r.withoutNul.rooted = ⟨r.status, r.key.map Text.withoutNul,
      r.deltas.map fun d => d.withoutNul.rooted⟩ := by
    simp only [Response.rooted, Response.withoutNul, List.map_map, Function.comp_def]
  exact ⟨r.withoutNul.toDocument, r.decode_encode_toDocument,
    hrooted ▸ r.withoutNul.ofDocument_toDocument⟩

example : [Delta.add ⟨"\x005", none, "", none⟩, .remove "5"].map (fun d => d.withoutNul.rooted) =
    [.add ⟨"5", some "0", "", none⟩, .remove "5"] := by decide

end MailSync.Hierarchy
