import MailSync.Proofs.Collection.Delivery
import MailSync.Proofs.Collection.Document
import MailSync.Proofs.Wbxml.Plain

/-!
# What a request about a collection asks for

A request as the server reads it from the bytes that are posted. The wire takes the NUL characters
out of its texts and nothing else, so key, number of messages and window are read as they were
stated, and a request for a fresh start states nothing but its key and the collection.
-/
namespace MailSync.Collection
open Text (NoNul)
open Wbxml (Element)
open CodePage

/-! ### What is stated -/

/-- How many messages a request asks for. -/
def windowSizeIn (document : Element) : Option UInt32 :=
  (collectionIn document).bind (·.childNumber? AirSync.windowSize)

/-- The code of the window that a request asks for. -/
def filterTypeIn (document : Element) : Option UInt32 :=
  ((collectionIn document).bind (·.find? AirSync.options)).bind
    (·.childNumber? AirSync.filterType)

section
variable (r : Request) (key : String)

theorem collectionIn_toDocument (initial : Bool) :
    collectionIn (r.toDocument key initial) = some (.node AirSync.collection
      ([.text AirSync.syncKey key, .text AirSync.collectionId r.collection] ++
        (if initial then [] else r.settings))) := rfl

theorem windowSizeIn_toDocument : windowSizeIn (r.toDocument key false) = some r.windowSize := by
  have hfind : (Element.node AirSync.collection ([.text AirSync.syncKey key,
      .text AirSync.collectionId r.collection] ++ r.settings)).find? AirSync.windowSize =
        some (.number AirSync.windowSize r.windowSize) := rfl
  rw [windowSizeIn, collectionIn_toDocument, Option.bind_some, if_neg Bool.false_ne_true,
    Element.childNumber?_of_find? hfind]

theorem filterTypeIn_toDocument : filterTypeIn (r.toDocument key false) = some r.window.code := by
  have hfind : (Element.node AirSync.collection ([.text AirSync.syncKey key,
      .text AirSync.collectionId r.collection] ++ r.settings)).find? AirSync.options =
        some r.options := rfl
  have hoptions : r.options.find? AirSync.filterType =
      some (.number AirSync.filterType r.window.code) := rfl
  rw [filterTypeIn, collectionIn_toDocument, Option.bind_some, if_neg Bool.false_ne_true, hfind,
    Option.bind_some, Element.childNumber?_of_find? hoptions]

end

/-! ### The way over the wire -/

def Command.withoutNul : Command → Command
  | .fetch id => .fetch (Text.withoutNul id)
  | .delete id => .delete (Text.withoutNul id)
  | .flag id which state => .flag (Text.withoutNul id) which state

def Request.withoutNul (r : Request) : Request :=
  { r with
    collection := Text.withoutNul r.collection
    commands := r.commands.map Command.withoutNul }

theorem Command.toElement_withoutNul (c : Command) :
    c.toElement.withoutNul = c.withoutNul.toElement := by
  cases c with
  | fetch id | delete id => rfl
  | flag id which state =>
    simp only [toElement, withoutNul, Element.withoutNul_node, List.map_cons, List.map_nil,
      Element.withoutNul_text, (faithful_flagData which state).plain]

theorem Command.faithful_toElement (c : Command) : c.withoutNul.toElement.Faithful 3 := by
  have hid (id : String) {n : Nat} :
      (Element.text AirSync.serverId (Text.withoutNul id)).Faithful n :=
    Element.faithful_text (by decide) (Text.noNul_withoutNul id)
  cases c with
  | fetch id | delete id =>
    exact Element.faithful_node (by decide) (List.forall_mem_singleton.mpr (hid id))
  | flag id which state =>
    refine Element.faithful_node (by decide) (List.forall_mem_cons.mpr ⟨hid id, ?_⟩)
    exact List.forall_mem_singleton.mpr (faithful_flagData which state)

theorem noNul_bit (b : Bool) : NoNul (bit b) := by cases b <;> decide

theorem Request.faithful_options (r : Request) : r.options.Faithful 2 := by
  refine Element.faithful_node (by decide) (List.forall_mem_cons.mpr ⟨?_, ?_⟩)
  · exact Element.faithful_number (by decide) _
  refine List.forall_mem_cons.mpr ⟨Element.faithful_text (by decide) (by decide), ?_⟩
  refine List.forall_mem_singleton.mpr (Element.faithful_node (by decide) ?_)
  refine List.forall_mem_cons.mpr ⟨Element.faithful_text (by decide) (by decide), ?_⟩
  cases r.truncation with
  | none => exact List.forall_mem_nil _
  | some size => exact List.forall_mem_singleton.mpr (Element.faithful_number (by decide) size)

theorem Request.settings_withoutNul (r : Request) :
    r.settings.map Element.withoutNul = r.withoutNul.settings := by
  simp only [settings, withoutNul, List.map_append, List.map_cons, List.map_nil,
    Element.withoutNul_text, Element.withoutNul_number, (noNul_bit _).withoutNul_eq,
    r.faithful_options.plain, apply_ite (List.map Element.withoutNul), Element.withoutNul_node,
    List.isEmpty_map, List.map_map, Function.comp_def, Command.toElement_withoutNul]
  rfl

theorem Request.faithful_settings (r : Request) :
    ∀ e ∈ r.withoutNul.settings, e.Faithful 4 := by
  have hbit (b : Bool) (tag : Wbxml.Tag) (htag : tag.Writable) :
      (Element.text tag (bit b)).Faithful 4 := Element.faithful_text htag (noNul_bit b)
  refine List.forall_mem_append.mpr ⟨?_, ?_⟩
  · refine List.forall_mem_cons.mpr ⟨hbit _ _ (by decide), ?_⟩
    refine List.forall_mem_cons.mpr ⟨hbit _ _ (by decide), ?_⟩
    refine List.forall_mem_cons.mpr ⟨Element.faithful_number (by decide) _, ?_⟩
    exact List.forall_mem_singleton.mpr (r.withoutNul.faithful_options.mono (by decide))
  · split_ifs
    · exact List.forall_mem_nil _
    · refine List.forall_mem_singleton.mpr (Element.faithful_node (by decide) ?_)
      exact List.forall_mem_map.mpr (List.forall_mem_map.mpr fun c _ => c.faithful_toElement)

theorem Request.toDocument_withoutNul (r : Request) (key : String) (initial : Bool) :
    (r.toDocument key initial).withoutNul =
      r.withoutNul.toDocument (Text.withoutNul key) initial := by
  simp only [toDocument, wrap, Element.withoutNul_node, List.map_cons, List.map_nil,
    List.map_append, Element.withoutNul_text, apply_ite (List.map Element.withoutNul),
    r.settings_withoutNul]
  rfl

/-- What the bytes of a request are read as. -/
theorem Request.decode_encode_toDocument (r : Request) (key : String) (initial : Bool) :
    Wbxml.decode (r.toDocument key initial).encode =
      .ok (r.withoutNul.toDocument (Text.withoutNul key) initial) := by
  have hparts : ∀ e ∈ [Element.text AirSync.syncKey (Text.withoutNul key),
      .text AirSync.collectionId r.withoutNul.collection] ++
        (if initial then [] else r.withoutNul.settings), e.Faithful 4 := by
    refine List.forall_mem_append.mpr ⟨List.forall_mem_cons.mpr ⟨?_, ?_⟩, ?_⟩
    · exact Element.faithful_text (by decide) (Text.noNul_withoutNul key)
    · exact List.forall_mem_singleton.mpr
        (Element.faithful_text (by decide) (Text.noNul_withoutNul r.collection))
    · cases initial with
      | true => exact List.forall_mem_nil _
      | false => exact r.faithful_settings
  have hcollection := Element.faithful_node (by decide : AirSync.collection.Writable) hparts
  have hcollections := Element.faithful_node (by decide : AirSync.collections.Writable)
    (List.forall_mem_singleton.mpr hcollection)
  have hsync := Element.faithful_node (by decide : AirSync.sync.Writable)
    (List.forall_mem_singleton.mpr hcollections)
  have hfaithful : (r.toDocument key initial).withoutNul.Faithful Wbxml.maxDepth := by
    rw [r.toDocument_withoutNul]
    exact hsync.mono (by decide)
  rw [Element.decode_encode_of_withoutNul hfaithful, r.toDocument_withoutNul]

end MailSync.Collection
