import Mathlib.Data.List.Basic
import Mathlib.Data.List.Forall2
import Mathlib.Tactic.SplitIfs
import MailSync.Collection.Document
import MailSync.Proofs.Wbxml.Framing
import MailSync.Proofs.Wbxml.Outline

/-!
# Which responses cannot be read

A response is refused for four faults only: the wrong root, no collection and no status either, a
collection without a status, and a command of the server that does not name its message. What the
data of a message says and what the responses to the client's commands are cannot be at fault. Where
a response is read, its changes are in the order of the document, with the fetched messages last.
-/
namespace MailSync

/-! ### Readers that fail -/

section
variable {ε α β γ δ : Type}

/-- A reader fails, for whatever reason. -/
def Unreadable (x : Except ε α) : Prop := ∃ e, x = .error e

theorem unreadable_ok_iff (a : α) : Unreadable (.ok a : Except ε α) ↔ False := ⟨nofun, False.elim⟩

theorem unreadable_bind_iff {x : Except ε α} {f : α → Except ε β} :
    Unreadable (x >>= f) ↔ Unreadable x ∨ ∃ a, x = .ok a ∧ Unreadable (f a) := by
  simp only [Unreadable, bind_eq_error_iff, exists_or]
  exact or_congr_right ⟨fun ⟨e, a, ha, h⟩ => ⟨a, ha, e, h⟩, fun ⟨a, ha, e, h⟩ => ⟨e, a, ha, h⟩⟩

theorem mapM_eq_ok_iff {f : α → Except ε β} {xs : List α} {ys : List β} :
    xs.mapM f = .ok ys ↔ List.Forall₂ (fun x y => f x = .ok y) xs ys := by
  induction xs generalizing ys with
  | nil => exact ⟨fun h => Except.ok.inj h ▸ .nil, fun h => by cases h; rfl⟩
  | cons x xs ih =>
    rw [List.mapM_cons, bind_eq_ok_iff]
    constructor
    · rintro ⟨y, hy, h⟩
      obtain ⟨rest, hrest, h⟩ := bind_eq_ok_iff.mp h
      obtain rfl := Except.ok.inj h
      exact .cons hy (ih.mp hrest)
    · rintro (_ | ⟨hy, hrest⟩)
      exact ⟨_, hy, bind_eq_ok_iff.mpr ⟨_, ih.mpr hrest, rfl⟩⟩

/-- All of a list is read if each of its items is. -/
theorem unreadable_mapM_iff {f : α → Except ε β} {xs : List α} :
    Unreadable (xs.mapM f) ↔ ∃ x ∈ xs, Unreadable (f x) := by
  induction xs with
  | nil => exact ⟨fun h => ((unreadable_ok_iff _).mp h).elim, fun ⟨_, h, _⟩ => nomatch h⟩
  | cons x xs ih =>
    have hrest (y : β) :
        Unreadable (xs.mapM f >>= fun ys => pure (y :: ys)) ↔ Unreadable (xs.mapM f) := by
      rw [unreadable_bind_iff]
      exact or_iff_left fun ⟨_, _, h⟩ => (unreadable_ok_iff _).mp h
    rw [List.mapM_cons, unreadable_bind_iff, List.exists_mem_cons_iff, ← ih]
    simp only [hrest]
    cases hx : f x with
    | error e => exact iff_of_true (.inl ⟨e, rfl⟩) (.inl ⟨e, rfl⟩)
    | ok y => exact or_congr_right ⟨fun ⟨_, _, h⟩ => h, fun h => ⟨y, rfl, h⟩⟩

/-- Two readers fail for the same reason, or neither of them does. -/
def FailAlike (x : Except ε α) (y : Except ε β) : Prop := ∀ e, x = .error e ↔ y = .error e

theorem failAlike_ok (a : α) (b : β) : FailAlike (.ok a : Except ε α) (.ok b : Except ε β) :=
  fun _ => ⟨nofun, nofun⟩

theorem failAlike_error (e : ε) :
    FailAlike (.error e : Except ε α) (.error e : Except ε β) :=
  fun _ => ⟨fun h => congrArg _ (Except.error.inj h), fun h => congrArg _ (Except.error.inj h)⟩

theorem FailAlike.of_eq {x y : Except ε α} (h : x = y) : FailAlike x y := fun _ => by rw [h]

theorem FailAlike.bind {x : Except ε α} {y : Except ε β} {f : α → Except ε γ}
    {g : β → Except ε δ} (h : FailAlike x y)
    (hrest : ∀ a b, x = .ok a → y = .ok b → FailAlike (f a) (g b)) :
    FailAlike (x >>= f) (y >>= g) := by
  cases x with
  | error e =>
    obtain rfl := (h e).mp rfl
    exact failAlike_error e
  | ok a =>
    cases y with
    | error e => cases (h e).mpr rfl
    | ok b => exact hrest a b rfl rfl

theorem failAlike_mapM {f : α → Except ε β} {g : α → α} {xs : List α}
    (h : ∀ x ∈ xs, FailAlike (f (g x)) (f x)) : FailAlike ((xs.map g).mapM f) (xs.mapM f) := by
  induction xs with
  | nil => exact .of_eq rfl
  | cons x xs ih =>
    obtain ⟨hx, hxs⟩ := List.forall_mem_cons.mp h
    rw [List.map_cons, List.mapM_cons, List.mapM_cons]
    refine hx.bind fun y y' _ _ => (ih hxs).bind fun ys ys' _ _ => ?_
    exact failAlike_ok _ _

end

namespace Collection
open Wbxml (Tag Element)
open CodePage

/-! ### What is read -/

/-- The commands of the server that are about a message. -/
def NamesMessage (e : Element) : Prop :=
  e.tag = AirSync.add ∨ e.tag = AirSync.change ∨ e.tag = AirSync.delete ∨
    e.tag = AirSync.softDelete

instance (e : Element) : Decidable (NamesMessage e) :=
  inferInstanceAs (Decidable (e.tag = AirSync.add ∨ e.tag = AirSync.change ∨
    e.tag = AirSync.delete ∨ e.tag = AirSync.softDelete))

/-- The changes that a command of the server states. -/
inductive States (e : Element) : List Delta → Prop
  | add {id : String} {data : Element} (tag : e.tag = AirSync.add)
      (names : e.childText? AirSync.serverId = some id)
      (brings : e.find? AirSync.applicationData = some data) : States e [.add (messageOf id data)]
  | blank {id : String} (tag : e.tag = AirSync.add)
      (names : e.childText? AirSync.serverId = some id)
      (bare : e.find? AirSync.applicationData = none) : States e [.add (.blank id)]
  | flags {id : String} {data : Element} (tag : e.tag = AirSync.change)
      (names : e.childText? AirSync.serverId = some id)
      (brings : e.find? AirSync.applicationData = some data) :
      States e ((flagsStated data).map fun (flag, state) => .flag id flag state)
  | idle {id : String} (tag : e.tag = AirSync.change)
      (names : e.childText? AirSync.serverId = some id)
      (bare : e.find? AirSync.applicationData = none) : States e []
  | delete {id : String} (tag : e.tag = AirSync.delete ∨ e.tag = AirSync.softDelete)
      (names : e.childText? AirSync.serverId = some id) : States e [.delete id]
  | other (h : ¬NamesMessage e) : States e []

theorem requireServerId_of_some {e : Element} {id : String}
    (h : e.childText? AirSync.serverId = some id) : requireServerId e = .ok id := by
  rw [requireServerId, Element.requireText, h]

theorem requireServerId_of_none {e : Element} (h : e.childText? AirSync.serverId = none) :
    requireServerId e = .error (.missing "Sync command" "ServerId") := by
  rw [requireServerId, Element.requireText, h]

theorem deltasOf_of_none {e : Element} (hn : NamesMessage e)
    (h : e.childText? AirSync.serverId = none) :
    deltasOf e = .error (.missing "Sync command" "ServerId") := by
  have hid := requireServerId_of_none h
  unfold deltasOf
  split_ifs with ha hc hd
  · rw [hid]
    rfl
  · rw [hid]
    rfl
  · rw [hid]
    rfl
  · rcases hn with hn | hn | hn
    · exact absurd hn ha
    · exact absurd hn hc
    · exact absurd hn hd

theorem exists_states {e : Element} (h : NamesMessage e → e.childText? AirSync.serverId ≠ none) :
    ∃ ds, deltasOf e = .ok ds ∧ States e ds := by
  by_cases hn : NamesMessage e
  · obtain ⟨id, hid⟩ := Option.ne_none_iff_exists'.mp (h hn)
    have hrequire := requireServerId_of_some hid
    unfold deltasOf
    split_ifs with ha hc hd
    · rw [hrequire]
      cases hdata : e.find? AirSync.applicationData with
      | some data => exact ⟨_, rfl, .add ha hid hdata⟩
      | none => exact ⟨_, rfl, .blank ha hid hdata⟩
    · rw [hrequire]
      cases hdata : e.find? AirSync.applicationData with
      | some data => exact ⟨_, rfl, .flags hc hid hdata⟩
      | none => exact ⟨_, rfl, .idle hc hid hdata⟩
    · rw [hrequire]
      exact ⟨_, rfl, .delete hd hid⟩
    · rcases hn with hn | hn | hn
      · exact absurd hn ha
      · exact absurd hn hc
      · exact absurd hn hd
  · have hother := hn
    simp only [NamesMessage, not_or] at hother
    obtain ⟨ha, hc, hd, hs⟩ := hother
    refine ⟨[], ?_, .other hn⟩
    rw [deltasOf, if_neg ha, if_neg hc, if_neg (not_or.mpr ⟨hd, hs⟩)]

/-- A command cannot be read only if it does not name its message. -/
theorem unreadable_deltasOf_iff (e : Element) :
    Unreadable (deltasOf e) ↔ NamesMessage e ∧ e.childText? AirSync.serverId = none := by
  by_cases h : NamesMessage e ∧ e.childText? AirSync.serverId = none
  · exact iff_of_true ⟨_, deltasOf_of_none h.1 h.2⟩ h
  · obtain ⟨ds, hds, -⟩ := exists_states fun hn hid => h ⟨hn, hid⟩
    rw [hds]
    exact iff_of_false (unreadable_ok_iff ds).mp h

theorem States.of_deltasOf {e : Element} {ds : List Delta} (h : deltasOf e = .ok ds) :
    States e ds := by
  have hread : ¬Unreadable (deltasOf e) := by
    rw [h]
    exact (unreadable_ok_iff ds).mp
  obtain ⟨ds', hds, hstates⟩ := exists_states fun hn hid => hread
    ((unreadable_deltasOf_iff e).mpr ⟨hn, hid⟩)
  exact Except.ok.inj (hds.symm.trans h) ▸ hstates

/-- The message that a response to a command of the client brings, if it is a fetch that
succeeded. -/
inductive Supplies (e : Element) : List Delta → Prop
  | fetched {id : String} {data : Element} (tag : e.tag = AirSync.fetch)
      (names : e.childText? AirSync.serverId = some id)
      (status : ∀ n, e.childNumber? AirSync.status = some n → n = 1)
      (brings : e.find? AirSync.applicationData = some data) : Supplies e [.add (messageOf id data)]
  | nothing (h : e.tag ≠ AirSync.fetch ∨ e.childText? AirSync.serverId = none ∨
      (∃ n, e.childNumber? AirSync.status = some n ∧ n ≠ 1) ∨
      e.find? AirSync.applicationData = none) : Supplies e []

theorem tag_of_ofTag?_eq_fetch {tag : Tag} (h : ResponseKind.ofTag? tag = some .fetch) :
    tag = AirSync.fetch := by
  unfold ResponseKind.ofTag? at h
  split_ifs at h with ha hc hd hf
  · cases h
  · cases h
  · cases h
  · exact hf

theorem fetched?_eq_some {e : Element} {d : Delta} (h : fetched? e = some d) :
    ∃ id data, e.tag = AirSync.fetch ∧ e.childText? AirSync.serverId = some id ∧
      (∀ n, e.childNumber? AirSync.status = some n → n = 1) ∧
      e.find? AirSync.applicationData = some data ∧ d = .add (messageOf id data) := by
  obtain ⟨r, hr, h⟩ := Option.bind_eq_some_iff.mp h
  obtain ⟨data, hdata, h⟩ := Option.bind_eq_some_iff.mp h
  obtain ⟨kind, hkind, hr⟩ := Option.bind_eq_some_iff.mp hr
  obtain ⟨id, hid, hr⟩ := Option.bind_eq_some_iff.mp hr
  obtain rfl := Option.some.inj hr
  split_ifs at h with hfetched
  obtain ⟨rfl, hstatus⟩ := hfetched
  refine ⟨id, data, tag_of_ofTag?_eq_fetch hkind, hid, fun n hn => ?_, hdata,
    (Option.some.inj h).symm⟩
  rw [hn] at hstatus
  exact hstatus

theorem fetched?_of_brought {e data : Element} {id : String} (htag : e.tag = AirSync.fetch)
    (hid : e.childText? AirSync.serverId = some id)
    (hstatus : ∀ n, e.childNumber? AirSync.status = some n → n = 1)
    (hdata : e.find? AirSync.applicationData = some data) :
    fetched? e = some (.add (messageOf id data)) := by
  have hone : (e.childNumber? AirSync.status).getD statusOk = statusOk := by
    cases hn : e.childNumber? AirSync.status with
    | none => rfl
    | some n => exact hstatus n hn
  have hitem : ItemResponse.ofElement? e = some ⟨id, .fetch, statusOk⟩ := by
    rw [ItemResponse.ofElement?, htag, hid, hone]
    rfl
  rw [fetched?, hitem, hdata]
  rfl

theorem supplies_fetched? (e : Element) : Supplies e (fetched? e).toList := by
  cases h : fetched? e with
  | some d =>
    obtain ⟨id, data, htag, hid, hstatus, hdata, rfl⟩ := fetched?_eq_some h
    exact .fetched htag hid hstatus hdata
  | none =>
    refine .nothing (by_contra fun hno => ?_)
    simp only [not_or, not_exists, not_and, not_not] at hno
    obtain ⟨htag, hid, hstatus, hdata⟩ := hno
    obtain ⟨id, hid⟩ := Option.ne_none_iff_exists'.mp hid
    obtain ⟨data, hdata⟩ := Option.ne_none_iff_exists'.mp hdata
    cases h.symm.trans (fetched?_of_brought htag hid hstatus hdata)

/-! ### Which collection is read -/

/-- The collections of a response: those in the first block of collections. -/
def collectionsIn (root : Element) : List Element :=
  (childrenOf root AirSync.collections).filter (·.tag = AirSync.collection)

/-- The collection that is read: the first one with the id, or else the first of all. -/
inductive Chosen (root : Element) (collection : String) (e : Element) : Prop
  | named {before after : List Element} (split : collectionsIn root = before ++ e :: after)
      (named : e.childText? AirSync.collectionId = some collection)
      (others : ∀ x ∈ before, x.childText? AirSync.collectionId ≠ some collection)
  | first {after : List Element} (split : collectionsIn root = e :: after)
      (unnamed : ∀ x ∈ collectionsIn root, x.childText? AirSync.collectionId ≠ some collection)

theorem choose?_eq (root : Element) (collection : String) :
    choose? root collection =
      ((collectionsIn root).find? fun e => e.childText? AirSync.collectionId = some collection).or
        (collectionsIn root).head? := by
  unfold collectionsIn childrenOf
  cases hroot : root.find? AirSync.collections with
  | none => simp only [choose?, hroot, List.filter_nil, List.find?_nil, List.head?_nil, Option.or]
  | some block =>
    simp only [choose?, hroot, Element.findAll]
    cases (block.children.filter (·.tag = AirSync.collection)).find? fun e =>
      e.childText? AirSync.collectionId = some collection <;> rfl

theorem choose?_eq_none_iff {root : Element} {collection : String} :
    choose? root collection = none ↔ collectionsIn root = [] := by
  rw [choose?_eq, Option.or_eq_none_iff, List.head?_eq_none_iff]
  exact and_iff_right_of_imp fun h => by rw [h, List.find?_nil]

theorem choose?_eq_some_iff {root e : Element} {collection : String} :
    choose? root collection = some e ↔ Chosen root collection e := by
  rw [choose?_eq]
  constructor
  · intro h
    rcases Option.or_eq_some_iff.mp h with hfind | ⟨hnone, hhead⟩
    · obtain ⟨hnamed, before, after, hsplit, hbefore⟩ := List.find?_eq_some_iff_append.mp hfind
      refine .named hsplit (of_decide_eq_true hnamed) fun x hx hid => ?_
      have hx := hbefore x hx
      rw [decide_eq_true hid] at hx
      cases hx
    · obtain ⟨after, hsplit⟩ := List.head?_eq_some_iff.mp hhead
      refine .first hsplit fun x hx hid => ?_
      exact List.find?_eq_none.mp hnone x hx (decide_eq_true hid)
  · rintro (⟨hsplit, hnamed, hbefore⟩ | ⟨hsplit, hunnamed⟩)
    · have hfind : (collectionsIn root).find? (fun x =>
          x.childText? AirSync.collectionId = some collection) = some e := by
        refine List.find?_eq_some_iff_append.mpr ⟨decide_eq_true hnamed, _, _, hsplit, ?_⟩
        intro x hx
        rw [decide_eq_false (hbefore x hx)]
        rfl
      rw [hfind, Option.some_or]
    · have hnone : (collectionsIn root).find? (fun x =>
          x.childText? AirSync.collectionId = some collection) = none :=
        List.find?_eq_none.mpr fun x hx hid => hunnamed x hx (of_decide_eq_true hid)
      rw [hnone, Option.none_or, hsplit, List.head?_cons]

/-! ### Faults -/

theorem unreadable_requireNumber_iff (e : Element) (tag : Tag) (owner field : String) :
    Unreadable (e.requireNumber tag owner field) ↔ e.childNumber? tag = none := by
  unfold Element.requireNumber
  cases e.childNumber? tag with
  | none => exact iff_of_true ⟨_, rfl⟩ rfl
  | some n => exact iff_of_false (unreadable_ok_iff n).mp nofun

theorem unreadable_ofCollection_iff (e : Element) :
    Unreadable (Response.ofCollection e) ↔ e.childNumber? AirSync.status = none ∨
      ∃ c ∈ childrenOf e AirSync.commands, NamesMessage c ∧
        c.childText? AirSync.serverId = none := by
  unfold Response.ofCollection
  rw [unreadable_bind_iff, unreadable_requireNumber_iff]
  simp only [unreadable_bind_iff, unreadable_mapM_iff, unreadable_deltasOf_iff, unreadable_ok_iff,
    and_false, exists_false, or_false]
  cases hstatus : e.childNumber? AirSync.status with
  | none => exact iff_of_true (.inl rfl) (.inl rfl)
  | some status =>
    have hread : e.requireNumber AirSync.status "Sync collection" "Status" = .ok status := by
      rw [Element.requireNumber, hstatus]
    exact or_congr_right ⟨fun ⟨_, _, h⟩ => h, fun h => ⟨status, hread, h⟩⟩

theorem ofDocument_of_none {root : Element} {collection : String} (hroot : root.tag = AirSync.sync)
    (h : choose? root collection = none) :
    Response.ofDocument root collection =
      (root.requireNumber AirSync.status "Sync response" "collection or status" >>= fun status =>
        .ok ⟨status, none, false, [], []⟩) := by
  rw [Response.ofDocument, Element.expectRoot, if_pos hroot, h]
  rfl

theorem ofDocument_of_some {root e : Element} {collection : String}
    (hroot : root.tag = AirSync.sync) (h : choose? root collection = some e) :
    Response.ofDocument root collection = Response.ofCollection e := by
  rw [Response.ofDocument, Element.expectRoot, if_pos hroot, h]
  rfl

/-- The faults of a response. -/
inductive Malformed (root : Element) (collection : String) : Prop
  | root (h : root.tag ≠ AirSync.sync)
  | status (nowhere : collectionsIn root = []) (h : root.childNumber? AirSync.status = none)
  | collectionStatus {e : Element} (chosen : Chosen root collection e)
      (h : e.childNumber? AirSync.status = none)
  | serverId {e c : Element} (chosen : Chosen root collection e)
      (command : c ∈ childrenOf e AirSync.commands) (names : NamesMessage c)
      (h : c.childText? AirSync.serverId = none)

theorem unreadable_ofDocument_iff (root : Element) (collection : String) :
    Unreadable (Response.ofDocument root collection) ↔ Malformed root collection := by
  by_cases hroot : root.tag = AirSync.sync
  swap
  · refine iff_of_true ?_ (.root hroot)
    rw [Response.ofDocument, Element.expectRoot, if_neg hroot]
    exact ⟨_, rfl⟩
  cases hc : choose? root collection with
  | none =>
    have hnowhere := choose?_eq_none_iff.mp hc
    rw [ofDocument_of_none hroot hc, unreadable_bind_iff, unreadable_requireNumber_iff]
    simp only [unreadable_ok_iff, and_false, exists_false, or_false]
    refine ⟨.status hnowhere, ?_⟩
    rintro (h | ⟨-, h⟩ | ⟨hchosen, -⟩ | ⟨hchosen, -⟩)
    · exact absurd hroot h
    · exact h
    · cases hc.symm.trans (choose?_eq_some_iff.mpr hchosen)
    · cases hc.symm.trans (choose?_eq_some_iff.mpr hchosen)
  | some e =>
    have hchosen := choose?_eq_some_iff.mp hc
    rw [ofDocument_of_some hroot hc, unreadable_ofCollection_iff]
    constructor
    · rintro (h | ⟨c, hcommand, hnames, h⟩)
      · exact .collectionStatus hchosen h
      · exact .serverId hchosen hcommand hnames h
    · rintro (h | ⟨hnowhere, -⟩ | ⟨hchosen', h⟩ | ⟨hchosen', hcommand, hnames, h⟩)
      · exact absurd hroot h
      · cases hc.symm.trans (choose?_eq_none_iff.mpr hnowhere)
      · obtain rfl := Option.some.inj (hc.symm.trans (choose?_eq_some_iff.mpr hchosen'))
        exact .inl h
      · obtain rfl := Option.some.inj (hc.symm.trans (choose?_eq_some_iff.mpr hchosen'))
        exact .inr ⟨_, hcommand, hnames, h⟩

/-! ### What cannot be at fault -/

/-- The data of messages, and the responses to the commands of the client. -/
def isHarmless (tag : Tag) : Bool := tag = AirSync.applicationData || tag = AirSync.responses

theorem childrenOf_outline {isSealed : Tag → Bool} {e : Element} {tag : Tag}
    (he : isSealed e.tag = false) (htag : isSealed tag = false) :
    childrenOf (e.outline isSealed) tag = (childrenOf e tag).map (Element.outline isSealed) := by
  rw [childrenOf, childrenOf, Element.find?_outline he]
  cases h : e.find? tag with
  | none => rfl
  | some block => exact Element.children_outline ((Element.tag_of_find? h).symm ▸ htag)

theorem tag_of_mem_collectionsIn {root e : Element} (h : e ∈ collectionsIn root) :
    e.tag = AirSync.collection := of_decide_eq_true (List.mem_filter.mp h).2

section
variable {root e : Element} {collection : String}

theorem collectionsIn_outline (h : root.tag = AirSync.sync) :
    collectionsIn (root.outline isHarmless) =
      (collectionsIn root).map (Element.outline isHarmless) := by
  have htest : ((fun e : Element => decide (e.tag = AirSync.collection)) ∘
      Element.outline isHarmless) = fun e => decide (e.tag = AirSync.collection) := by
    funext e
    simp only [Function.comp_apply, Element.tag_outline]
  rw [collectionsIn, childrenOf_outline (by rw [h]; decide) (by decide), List.filter_map, htest,
    collectionsIn]

theorem collectionId_outline (h : e ∈ collectionsIn root) :
    (e.outline isHarmless).childText? AirSync.collectionId =
      e.childText? AirSync.collectionId :=
  Element.childText?_outline (by rw [tag_of_mem_collectionsIn h]; decide) (by decide)

theorem Chosen.mem (h : Chosen root collection e) : e ∈ collectionsIn root := by
  rcases h with ⟨hsplit, -⟩ | ⟨hsplit, -⟩
  · rw [hsplit]
    exact List.mem_append_right _ List.mem_cons_self
  · rw [hsplit]
    exact List.mem_cons_self

theorem Chosen.outline (h : root.tag = AirSync.sync) (he : Chosen root collection e) :
    Chosen (root.outline isHarmless) collection (e.outline isHarmless) := by
  have hmem := he.mem
  rcases he with ⟨hsplit, hnamed, hothers⟩ | ⟨hsplit, hunnamed⟩
  · refine .named (by rw [collectionsIn_outline h, hsplit, List.map_append, List.map_cons])
      ((collectionId_outline hmem).trans hnamed) ?_
    refine List.forall_mem_map.mpr fun x hx => ?_
    rw [collectionId_outline (hsplit ▸ List.mem_append_left _ hx)]
    exact hothers x hx
  · refine .first (by rw [collectionsIn_outline h, hsplit, List.map_cons]) ?_
    rw [collectionsIn_outline h]
    refine List.forall_mem_map.mpr fun x hx => ?_
    rw [collectionId_outline hx]
    exact hunnamed x hx

end

theorem failAlike_deltasOf_outline (e : Element) :
    FailAlike (deltasOf (e.outline isHarmless)) (deltasOf e) := by
  have hnames : NamesMessage (e.outline isHarmless) ↔ NamesMessage e := by
    simp only [NamesMessage, Element.tag_outline]
  have hid (hn : NamesMessage e) : (e.outline isHarmless).childText? AirSync.serverId =
      e.childText? AirSync.serverId := by
    refine Element.childText?_outline ?_ (by decide)
    rcases hn with hn | hn | hn | hn <;> rw [hn] <;> decide
  by_cases h : NamesMessage e ∧ e.childText? AirSync.serverId = none
  · obtain ⟨hn, h⟩ := h
    rw [deltasOf_of_none hn h, deltasOf_of_none (hnames.mpr hn) ((hid hn).trans h)]
    exact failAlike_error _
  · obtain ⟨ds, hds, -⟩ := exists_states fun hn hnone => h ⟨hn, hnone⟩
    obtain ⟨ds', hds', -⟩ := exists_states (e := e.outline isHarmless) fun hn hnone =>
      h ⟨hnames.mp hn, (hid (hnames.mp hn)).symm.trans hnone⟩
    rw [hds, hds']
    exact failAlike_ok ds' ds

theorem failAlike_ofCollection_outline {e : Element} (h : e.tag = AirSync.collection) :
    FailAlike (Response.ofCollection (e.outline isHarmless)) (Response.ofCollection e) := by
  have hsealed : isHarmless e.tag = false := by rw [h]; decide
  have hstatus : (e.outline isHarmless).requireNumber AirSync.status "Sync collection" "Status" =
      e.requireNumber AirSync.status "Sync collection" "Status" := by
    rw [Element.requireNumber, Element.childNumber?_outline hsealed (by decide),
      Element.requireNumber]
  unfold Response.ofCollection
  rw [hstatus, childrenOf_outline hsealed (by decide)]
  refine (FailAlike.of_eq rfl).bind fun _ _ _ _ => ?_
  refine (failAlike_mapM fun c _ => failAlike_deltasOf_outline c).bind fun _ _ _ _ => ?_
  exact failAlike_ok _ _

theorem failAlike_ofDocument_outline (root : Element) (collection : String) :
    FailAlike (Response.ofDocument (root.outline isHarmless) collection)
      (Response.ofDocument root collection) := by
  by_cases hroot : root.tag = AirSync.sync
  swap
  · unfold Response.ofDocument
    simp only [Element.expectRoot, Element.tag_outline, if_neg hroot]
    exact failAlike_error _
  have hroot' : (root.outline isHarmless).tag = AirSync.sync :=
    (Element.tag_outline root).trans hroot
  have hsealed : isHarmless root.tag = false := by rw [hroot]; decide
  cases hc : choose? root collection with
  | none =>
    have hc' : choose? (root.outline isHarmless) collection = none := by
      rw [choose?_eq_none_iff, collectionsIn_outline hroot, choose?_eq_none_iff.mp hc, List.map_nil]
    rw [ofDocument_of_none hroot hc, ofDocument_of_none hroot' hc']
    refine FailAlike.of_eq ?_
    rw [Element.requireNumber, Element.childNumber?_outline hsealed (by decide),
      Element.requireNumber]
  | some e =>
    have hchosen := choose?_eq_some_iff.mp hc
    rw [ofDocument_of_some hroot hc,
      ofDocument_of_some hroot' (choose?_eq_some_iff.mpr (hchosen.outline hroot))]
    exact failAlike_ofCollection_outline (tag_of_mem_collectionsIn hchosen.mem)

/-! ### The order of the changes -/

/-- What each command of the server states, in order, and then what each response to a command of
the client brings. -/
inductive InOrder (e : Element) : List Delta → Prop
  | intro {stated fetched : List (List Delta)}
      (commands : List.Forall₂ States (childrenOf e AirSync.commands) stated)
      (responses : List.Forall₂ Supplies (childrenOf e AirSync.responses) fetched) :
      InOrder e (stated.flatten ++ fetched.flatten)

theorem inOrder_of_ofCollection {e : Element} {r : Response}
    (h : Response.ofCollection e = .ok r) : InOrder e r.deltas := by
  obtain ⟨status, -, h⟩ := bind_eq_ok_iff.mp h
  obtain ⟨stated, hstated, h⟩ := bind_eq_ok_iff.mp h
  obtain rfl := Except.ok.inj h
  have hfetched : (childrenOf e AirSync.responses).filterMap fetched? =
      ((childrenOf e AirSync.responses).map fun c => (fetched? c).toList).flatten := by
    rw [List.filterMap_eq_flatMap_toList, List.flatMap_def]
  rw [hfetched]
  refine .intro ((mapM_eq_ok_iff.mp hstated).imp fun _ _ => States.of_deltasOf) ?_
  rw [List.forall₂_map_right_iff, List.forall₂_same]
  exact fun c _ => supplies_fetched? c

/-- A response is refused for four faults and no other. Two documents that differ in nothing but the
data of messages and the responses to the client's commands are both read, or refused for the same
reason. Where a response is read, its changes are in the order of the document, with the fetched
messages behind those of the commands. -/
theorem malformed_responses (root : Element) (collection : String) :
    ((∃ e, Response.ofDocument root collection = .error e) ↔ Malformed root collection) ∧
    (∀ other : Element, other.outline isHarmless = root.outline isHarmless →
      ∀ e, Response.ofDocument other collection = .error e ↔
        Response.ofDocument root collection = .error e) ∧
    ∀ r, Response.ofDocument root collection = .ok r →
      (∀ e, Chosen root collection e → InOrder e r.deltas) ∧
      (collectionsIn root = [] → r.deltas = []) := by
  refine ⟨unreadable_ofDocument_iff root collection, fun other h e => ?_, fun r hr => ?_⟩
  · have hother := failAlike_ofDocument_outline other collection e
    rw [h] at hother
    exact hother.symm.trans (failAlike_ofDocument_outline root collection e)
  · have hroot : root.tag = AirSync.sync := by
      by_contra hroot
      obtain ⟨e, he⟩ := (unreadable_ofDocument_iff root collection).mpr (.root hroot)
      cases hr.symm.trans he
    refine ⟨fun e hchosen => ?_, fun hnowhere => ?_⟩
    · rw [ofDocument_of_some hroot (choose?_eq_some_iff.mpr hchosen)] at hr
      exact inOrder_of_ofCollection hr
    · rw [ofDocument_of_none hroot (choose?_eq_none_iff.mpr hnowhere)] at hr
      obtain ⟨status, -, h⟩ := bind_eq_ok_iff.mp hr
      obtain rfl := Except.ok.inj h
      rfl

/-- A response with a date, a flag and a body that make no sense, and a fetch of nothing. -/
def garbled : Element :=
  wrap [.text AirSync.status " +1 ", .node AirSync.commands [.empty AirSync.commands,
      .node AirSync.softDelete [.bytes AirSync.serverId [109]],
      .node AirSync.add [.text AirSync.serverId "m1", .node AirSync.applicationData
        [.text Email.dateReceived "soon", .text Email.read "-1", .bytes Email.subject [0xFF],
          .node Body.body [.text Body.truncated "yes", .empty Body.data]]]],
    .node AirSync.responses [.text AirSync.fetch "m1", .empty AirSync.softDelete]]

example : Response.ofDocument garbled "5" =
    .ok ⟨1, none, false, [.delete "m", .add (.blank "m1")], []⟩ := by decide +kernel

example : Response.ofDocument (wrap [.text AirSync.status "1",
    .node AirSync.commands [.node AirSync.change [.bytes AirSync.serverId [0xFF]]]]) "5" =
      .error (.missing "Sync command" "ServerId") := by decide +kernel

end Collection
end MailSync
