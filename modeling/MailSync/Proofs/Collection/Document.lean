import MailSync.Collection.Document
import MailSync.Proofs.Collection.MessageData

/-!
# Responses, built and read back

A response is read back from the document that states it. The changes in it come back as what the
data says of them, and the messages that a fetch brings come last.
-/
namespace MailSync.Collection
open Text (NoNul)
open Wbxml (Tag Element Part)
open CodePage

/-! ### What can be sent -/

/-- A change whose parts all come back from the wire as they were. -/
def Delta.Sendable : Delta → Prop
  | .add m => m.Sendable
  | .flag id _ _ => NoNul id
  | .delete id => NoNul id

instance : (d : Delta) → Decidable d.Sendable
  | .add m => inferInstanceAs (Decidable m.Sendable)
  | .flag id _ _ => inferInstanceAs (Decidable (NoNul id))
  | .delete id => inferInstanceAs (Decidable (NoNul id))

structure Response.Sendable (r : Response) : Prop where
  key : ∀ key ∈ r.key, NoNul key
  deltas : ∀ d ∈ r.deltas, d.Sendable
  responses : ∀ item ∈ r.responses, NoNul item.id

instance (r : Response) : Decidable r.Sendable :=
  decidable_of_iff ((∀ key ∈ r.key, NoNul key) ∧ (∀ d ∈ r.deltas, d.Sendable) ∧
      ∀ item ∈ r.responses, NoNul item.id)
    ⟨fun ⟨hkey, hdeltas, hresponses⟩ => ⟨hkey, hdeltas, hresponses⟩,
      fun h => ⟨h.key, h.deltas, h.responses⟩⟩

/-! ### What comes back -/

/-- What is read of a change: nothing of an added message that a fetch brings, nor of a flag that
cannot be sent. -/
def Delta.images (responses : List ItemResponse) : Delta → List Delta
  | .add m => if responses.any (·.isFetched m.id) then [] else [.add m.image]
  | .flag id which state =>
    if which = .seen ∨ which = .flagged then [.flag id which state] else []
  | .delete id => [.delete id]

/-- The message in the verdict on a fetch: the first added one with its id, if there is one. -/
def ItemResponse.message? (deltas : List Delta) (r : ItemResponse) : Option Message :=
  if r.kind = .fetch then (deltas.filterMap Delta.message?).find? (·.id = r.id) else none

/-- What is read of the message in a verdict: nothing if the fetch did not succeed. -/
def ItemResponse.brings? (deltas : List Delta) (r : ItemResponse) : Option Delta :=
  if r.status = statusOk then (r.message? deltas).map fun m => .add m.image else none

/-- The response as it is read back. -/
def Response.carried (r : Response) : Response :=
  { r with deltas := r.deltas.flatMap (Delta.images r.responses) ++
      r.responses.filterMap (·.brings? r.deltas) }

/-! ### Commands -/

/-- What is sent for a change is read as the image of the change that it states. -/
theorem deltasOf_toElement {d : Delta} {responses : List ItemResponse} (h : d.Sendable)
    {e : Element} (he : d.toElement? responses = some e) :
    deltasOf e = .ok (d.images responses) := by
  cases d with
  | add m =>
    rw [Delta.toElement?] at he
    rw [Delta.images]
    split_ifs at he ⊢
    obtain rfl := Option.some.inj he
    rw [← messageOf_messageData h]
    rfl
  | flag id which state =>
    obtain rfl := Option.some.inj he
    cases which <;> cases state <;> rfl
  | delete id =>
    obtain rfl := Option.some.inj he
    rfl

theorem images_of_toElement?_eq_none {d : Delta} {responses : List ItemResponse}
    (h : d.toElement? responses = none) : d.images responses = [] := by
  cases d with
  | add m =>
    rw [Delta.toElement?] at h
    rw [Delta.images]
    split_ifs at h ⊢
    rfl
  | flag id which state => cases h
  | delete id => cases h

/-- The commands of a response are read as the images of its changes. -/
theorem mapM_deltasOf {deltas : List Delta} (h : ∀ d ∈ deltas, d.Sendable)
    (responses : List ItemResponse) :
    ∃ changes, (deltas.filterMap (Delta.toElement? responses)).mapM deltasOf = .ok changes ∧
      changes.flatten = deltas.flatMap (Delta.images responses) := by
  induction deltas with
  | nil => exact ⟨[], rfl, rfl⟩
  | cons d deltas ih =>
    obtain ⟨changes, hchanges, hflat⟩ := ih fun c hc => h c (List.mem_cons_of_mem d hc)
    rw [List.flatMap_cons]
    cases he : d.toElement? responses with
    | none =>
      rw [List.filterMap_cons_none he, images_of_toElement?_eq_none he]
      exact ⟨changes, hchanges, hflat⟩
    | some e =>
      refine ⟨d.images responses :: changes, ?_, ?_⟩
      · rw [List.filterMap_cons_some he, List.mapM_cons,
          deltasOf_toElement (h d List.mem_cons_self) he, hchanges]
        rfl
      · rw [List.flatten_cons, hflat]

/-! ### Verdicts -/

/-- The parts that the element of a verdict can have. -/
def itemParts (deltas : List Delta) (r : ItemResponse) : List Part :=
  [.text AirSync.serverId (some r.id), ⟨AirSync.status, some (.number AirSync.status r.status)⟩,
    ⟨AirSync.applicationData, (r.message? deltas).map messageData⟩]

theorem toElement_eq (deltas : List Delta) (r : ItemResponse) :
    r.toElement deltas = .node r.kind.tag (Part.children (itemParts deltas r)) := by
  simp only [itemParts, Part.children_cons, Part.children_nil, Part.text, List.append_nil]
  rw [ItemResponse.toElement, ItemResponse.message?]
  split_ifs <;> rfl

theorem proper_itemParts (deltas : List Delta) (r : ItemResponse) :
    Part.Proper (itemParts deltas r) := by
  refine ⟨?_, (by decide : List.Nodup [AirSync.serverId, AirSync.status, AirSync.applicationData])⟩
  simp only [itemParts, List.forall_mem_cons]
  refine ⟨Part.tag_of_mem_text _ _, ?_, Option.forall_mem_map.mpr fun _ _ => rfl, nofun⟩
  rintro _ ⟨⟩
  rfl

theorem find?_toElement (deltas : List Delta) (r : ItemResponse) (tag : Tag) :
    (r.toElement deltas).find? tag = Part.under? (itemParts deltas r) tag := by
  rw [toElement_eq, (proper_itemParts deltas r).find?_node]

/-- A verdict is read as it was, whether a message goes with it or not. -/
theorem ofElement?_toElement (deltas : List Delta) (r : ItemResponse) :
    ItemResponse.ofElement? (r.toElement deltas) = some r := by
  have hkind : ResponseKind.ofTag? r.kind.tag = some r.kind := by cases r.kind <;> rfl
  have hid : (r.toElement deltas).childText? AirSync.serverId = some r.id :=
    Element.childText?_of_find? (find?_toElement deltas r _)
  have hstatus : (r.toElement deltas).childNumber? AirSync.status = some r.status :=
    Element.childNumber?_of_find? (find?_toElement deltas r _)
  have htag : (r.toElement deltas).tag = r.kind.tag := rfl
  rw [ItemResponse.ofElement?, htag, hkind, hid, hstatus]
  rfl

theorem of_message?_eq_some {deltas : List Delta} (h : ∀ d ∈ deltas, d.Sendable)
    {r : ItemResponse} {m : Message} (hm : r.message? deltas = some m) :
    r.kind = .fetch ∧ m.id = r.id ∧ m.Sendable := by
  unfold ItemResponse.message? at hm
  split_ifs at hm with hkind
  obtain ⟨d, hd, hdm⟩ := List.mem_filterMap.mp (List.mem_of_find?_eq_some hm)
  have hsend := h d hd
  cases d with
  | add n =>
    obtain rfl := Option.some.inj hdm
    have hid := List.find?_some hm
    exact ⟨hkind, of_decide_eq_true hid, hsend⟩
  | flag id which state => cases hdm
  | delete id => cases hdm

/-- The message in a verdict is read if the fetch succeeded. -/
theorem fetched?_toElement {deltas : List Delta} (h : ∀ d ∈ deltas, d.Sendable)
    (r : ItemResponse) : fetched? (r.toElement deltas) = r.brings? deltas := by
  have hdata : (r.toElement deltas).find? AirSync.applicationData =
      (r.message? deltas).map messageData := find?_toElement deltas r _
  have hopen : fetched? (r.toElement deltas) =
      ((r.message? deltas).map messageData).bind fun data =>
        if r.kind = .fetch ∧ r.status = statusOk then some (.add (messageOf r.id data))
        else none := by
    rw [fetched?, ofElement?_toElement, hdata]
    rfl
  rw [hopen, ItemResponse.brings?]
  cases hm : r.message? deltas with
  | none => exact (ite_self none).symm
  | some m =>
    obtain ⟨hkind, hid, hsend⟩ := of_message?_eq_some h hm
    simp only [Option.map_some, Option.bind_some, hkind, true_and, ← hid,
      messageOf_messageData hsend]

/-! ### The document -/

/-- The parts of the collection that a response states. -/
def Response.parts (collection : String) (r : Response) : List Part :=
  let commands := r.deltas.filterMap (Delta.toElement? r.responses)
  let items := r.responses.map (ItemResponse.toElement r.deltas)
  [.text AirSync.syncKey r.key, .text AirSync.collectionId (some collection),
    ⟨AirSync.status, some (.number AirSync.status r.status)⟩,
    ⟨AirSync.moreAvailable, if r.moreAvailable then some (.empty AirSync.moreAvailable) else none⟩,
    ⟨AirSync.commands, if !commands.isEmpty then some (.node AirSync.commands commands) else none⟩,
    ⟨AirSync.responses, if !items.isEmpty then some (.node AirSync.responses items) else none⟩]

theorem toDocument_eq (collection : String) (r : Response) :
    r.toDocument collection = wrap (Part.children (r.parts collection)) := by
  have hblock (b : Bool) (e : Element) : (if !b then [e] else []) = if b then [] else [e] := by
    cases b <;> rfl
  rw [Response.toDocument, Response.parts]
  simp only [Part.children_cons, Part.children_nil, Part.text, apply_ite Option.toList,
    Option.toList_some, Option.toList_none, hblock, List.isEmpty_map, List.append_nil,
    List.append_assoc]
  rfl

theorem proper_parts (collection : String) (r : Response) : Part.Proper (r.parts collection) := by
  refine ⟨?_, (by decide : List.Nodup [AirSync.syncKey, AirSync.collectionId, AirSync.status,
    AirSync.moreAvailable, AirSync.commands, AirSync.responses])⟩
  simp only [Response.parts, List.forall_mem_cons]
  refine ⟨Part.tag_of_mem_text _ _, Part.tag_of_mem_text _ _, ?_, ?_, ?_, ?_, nofun⟩
  · rintro _ ⟨⟩
    rfl
  all_goals
    split_ifs <;> rintro _ ⟨⟩
    rfl

theorem choose?_wrap (children : List Element) (collection : String) :
    choose? (wrap children) collection = some (.node AirSync.collection children) := by
  have hall : (wrap children).find? AirSync.collections =
      some (.node AirSync.collections [.node AirSync.collection children]) := rfl
  have hone : (Element.node AirSync.collections [.node AirSync.collection children]).findAll
      AirSync.collection = [.node AirSync.collection children] := rfl
  simp only [choose?, hall, hone, List.find?_singleton]
  split_ifs <;> rfl

/-- A block that is left out if it would be empty has the same children. -/
theorem childrenOf_of_find? {e : Element} {tag : Tag} {es : List Element}
    (h : e.find? tag = if !es.isEmpty then some (.node tag es) else none) :
    childrenOf e tag = es := by
  rw [childrenOf, h]
  cases es <;> rfl

/-- What is read of the document that states a response. -/
theorem ofDocument_toDocument {r : Response} (h : r.Sendable) (collection : String) :
    Response.ofDocument (r.toDocument collection) collection = .ok r.carried := by
  have hfind (tag : Tag) := (proper_parts collection r).find?_node AirSync.collection tag
  have hcollection (es : List Element) : Response.ofDocument (wrap es) collection =
      Response.ofCollection (.node AirSync.collection es) := by
    rw [Response.ofDocument, choose?_wrap]
    rfl
  rw [toDocument_eq, hcollection]
  -- From here on only what is found under each tag matters, not the element itself.
  generalize Element.node AirSync.collection (Part.children (r.parts collection)) = e at hfind
  have hstatus : e.requireNumber AirSync.status "Sync collection" "Status" = .ok r.status := by
    rw [Element.requireNumber, Element.childNumber?_of_find? (hfind _)]
  have hkey : e.childText? AirSync.syncKey = r.key := Element.childText?_of_find? (hfind _)
  have hmore : e.has AirSync.moreAvailable = r.moreAvailable := by
    have hpart : e.find? AirSync.moreAvailable =
      if r.moreAvailable then some (.empty AirSync.moreAvailable) else none := hfind _
    rw [Element.has, hpart]
    cases r.moreAvailable <;> rfl
  have hcommands : childrenOf e AirSync.commands =
      r.deltas.filterMap (Delta.toElement? r.responses) := childrenOf_of_find? (hfind _)
  have hitems : childrenOf e AirSync.responses =
      r.responses.map (ItemResponse.toElement r.deltas) := childrenOf_of_find? (hfind _)
  have hverdicts : (r.responses.map (ItemResponse.toElement r.deltas)).filterMap
      ItemResponse.ofElement? = r.responses := by
    rw [List.filterMap_map, Function.comp_def]
    simp only [ofElement?_toElement, List.filterMap_some]
  have hfetched : (r.responses.map (ItemResponse.toElement r.deltas)).filterMap fetched? =
      r.responses.filterMap (ItemResponse.brings? r.deltas) := by
    rw [List.filterMap_map, Function.comp_def]
    simp only [fetched?_toElement h.deltas]
  obtain ⟨changes, hchanges, hflat⟩ := mapM_deltasOf h.deltas r.responses
  rw [Response.ofCollection, hstatus, hkey, hmore, hcommands, hitems, hchanges]
  change Except.ok (Response.mk ..) = _
  rw [hverdicts, hfetched, hflat]
  rfl

/-! ### The way over the wire -/

theorem faithful_flagData (which : Flag) (state : Bool) : (flagData which state).Faithful 2 := by
  have hbit : NoNul (bit state) := by cases state <;> decide
  refine Element.faithful_node (by decide) fun e he => ?_
  cases which with
  | seen =>
    obtain rfl := Option.some.inj (Option.mem_toList.mp he)
    exact Element.faithful_text (by decide) hbit
  | flagged =>
    cases state with
    | false =>
      obtain rfl := Option.some.inj (Option.mem_toList.mp he)
      exact Element.faithful_empty (by decide)
    | true =>
      obtain rfl := Option.some.inj (Option.mem_toList.mp he)
      refine Element.faithful_node (by decide) (List.forall_mem_cons.mpr ⟨?_, ?_⟩)
      · exact Element.faithful_text (by decide) (by decide)
      · exact List.forall_mem_singleton.mpr (Element.faithful_text (by decide) (by decide))
  | answered | forwarded | deleted => cases he

theorem faithful_commands {deltas : List Delta} {responses : List ItemResponse}
    (h : ∀ d ∈ deltas, d.Sendable) :
    ∀ e ∈ deltas.filterMap (Delta.toElement? responses), e.Faithful 3 := by
  intro e he
  obtain ⟨d, hd, hde⟩ := List.mem_filterMap.mp he
  have hsend := h d hd
  cases d with
  | add m =>
    rw [Delta.toElement?] at hde
    split_ifs at hde
    obtain rfl := Option.some.inj hde
    refine Element.faithful_node (by decide) (List.forall_mem_cons.mpr ⟨?_, ?_⟩)
    · exact Element.faithful_text (by decide) hsend.id
    · exact List.forall_mem_singleton.mpr (faithful_messageData hsend)
  | flag id which state =>
    obtain rfl := Option.some.inj hde
    refine Element.faithful_node (by decide) (List.forall_mem_cons.mpr ⟨?_, ?_⟩)
    · exact Element.faithful_text (by decide) hsend
    · exact List.forall_mem_singleton.mpr (faithful_flagData which state)
  | delete id =>
    obtain rfl := Option.some.inj hde
    refine Element.faithful_node (by decide) (List.forall_mem_singleton.mpr ?_)
    exact Element.faithful_text (by decide) hsend

theorem faithful_toElement {deltas : List Delta} (h : ∀ d ∈ deltas, d.Sendable)
    {r : ItemResponse} (hr : NoNul r.id) : (r.toElement deltas).Faithful 3 := by
  have hkind : r.kind.tag.Writable := by cases r.kind <;> decide
  rw [toElement_eq]
  refine Part.faithful_node hkind ?_
  simp only [itemParts, List.forall_mem_cons]
  refine ⟨Part.faithful_text (by decide) ?_, ?_, ?_, nofun⟩
  · rintro _ ⟨⟩
    exact hr
  · rintro _ ⟨⟩
    exact Element.faithful_number (by decide) _
  · exact Option.forall_mem_map.mpr fun m hm =>
      faithful_messageData (of_message?_eq_some h hm).2.2

theorem faithful_parts {collection : String} (hc : NoNul collection) {r : Response}
    (h : r.Sendable) : ∀ p ∈ r.parts collection, ∀ e ∈ p.child?, e.Faithful 4 := by
  simp only [Response.parts, List.forall_mem_cons]
  refine ⟨Part.faithful_text (by decide) h.key, Part.faithful_text (by decide) ?_, ?_, ?_, ?_, ?_,
    nofun⟩
  · rintro _ ⟨⟩
    exact hc
  · rintro _ ⟨⟩
    exact Element.faithful_number (by decide) _
  · split_ifs <;> rintro _ ⟨⟩
    exact Element.faithful_empty (by decide)
  · split_ifs <;> rintro _ ⟨⟩
    exact Element.faithful_node (by decide) (faithful_commands h.deltas)
  · split_ifs <;> rintro _ ⟨⟩
    refine Element.faithful_node (by decide) (List.forall_mem_map.mpr fun item hitem => ?_)
    exact faithful_toElement h.deltas (h.responses item hitem)

/-- The document for a response comes back from the wire as it was. -/
theorem faithful_toDocument {collection : String} (hc : NoNul collection) {r : Response}
    (h : r.Sendable) : (r.toDocument collection).Faithful Wbxml.maxDepth := by
  have hcollection := Part.faithful_node (by decide : AirSync.collection.Writable)
    (faithful_parts hc h)
  have hcollections := Element.faithful_node (by decide : AirSync.collections.Writable)
    (List.forall_mem_singleton.mpr hcollection)
  have hsync := Element.faithful_node (by decide : AirSync.sync.Writable)
    (List.forall_mem_singleton.mpr hcollections)
  rw [toDocument_eq]
  exact hsync.mono (by decide)

/-- A response comes back over the wire with its status, key, verdicts and mark for more as they
were. Of its changes come, in order, what the data says of them, without the flags that cannot be
sent and the messages that a successful fetch is to bring; these come last, in the order of the
fetches, each the first message that was added under its id. -/
theorem response_comes_back {collection : String} (hc : NoNul collection) {r : Response}
    (h : r.Sendable) :
    ∃ root, Wbxml.decode (r.toDocument collection).encode = .ok root ∧
      Response.ofDocument root collection = .ok r.carried :=
  ⟨r.toDocument collection, (faithful_toDocument hc h).decode_encode_eq,
    ofDocument_toDocument h collection⟩

/-- A message with something in each of its fields: separators and brackets in a name, the middle of
a leap second, a body that was cut short. -/
def letter (id : String) : Message :=
  ⟨id, some "plans", [⟨some "Doe, J. <jd>; \u00e9", "jd@example.com"⟩],
    [⟨none, "a@example.com"⟩, ⟨some "B", "b@example.com"⟩], [], [],
    some ⟨⟨2016, 12, 31⟩, 86399, 1500000000⟩, some "IPM.Note", some "plans",
    ⟨true, true, true, false⟩, some [0x00, 0xFF], true⟩

/-- A response with two messages under one id that is fetched, and a fetch of a message that is not
there. -/
def fetching : Response :=
  ⟨1, some "k2", true,
    [.add (letter "m1"), .flag "m0" .answered true,
      .add { Message.blank "m2" with truncated := true }, .flag "m0" .flagged false,
      .add (letter "m2"), .delete "m0"],
    [⟨"m2", .fetch, 1⟩, ⟨"m9", .fetch, 1⟩, ⟨"m1", .fetch, 8⟩]⟩

theorem fetching_comes_back :
    NoNul "5" ∧ fetching.Sendable ∧
      ∃ root, Wbxml.decode (fetching.toDocument "5").encode = .ok root ∧
        Response.ofDocument root "5" = .ok ⟨1, some "k2", true,
          [.add { letter "m1" with threadTopic := none, flags := ⟨true, true, false, false⟩ },
            .flag "m0" .flagged false, .delete "m0", .add (.blank "m2")],
          [⟨"m2", .fetch, 1⟩, ⟨"m9", .fetch, 1⟩, ⟨"m1", .fetch, 8⟩]⟩ := by
  have hsend : fetching.Sendable := by decide
  have hcarried : fetching.carried = ⟨1, some "k2", true,
      [.add { letter "m1" with threadTopic := none, flags := ⟨true, true, false, false⟩ },
        .flag "m0" .flagged false, .delete "m0", .add (.blank "m2")],
      [⟨"m2", .fetch, 1⟩, ⟨"m9", .fetch, 1⟩, ⟨"m1", .fetch, 8⟩]⟩ := by decide
  have hback := response_comes_back (by decide : NoNul "5") hsend
  exact ⟨by decide, hsend, hcarried ▸ hback⟩

end MailSync.Collection
