import MailSync.Proofs.Collection.Meaning
import MailSync.Proofs.Collection.Requests
import MailSync.Proofs.Rounds

/-!
# Whose changes a pass takes

A reply may hold any number of collections, each with the id of a folder or without one. A pass
reads one of them: the first that has the id of its own folder, whatever the others say. Where none
has it the first one is read all the same, and then the changes of another folder and its key are
taken for the pass's own. All that a pass takes comes from what it reads like that.
-/
namespace MailSync.Collection
open CodePage
open Mailbox (Memory)
open Wbxml (Element)

variable {s : Surroundings Memory} {sess : Session} {folder : String} {stored : Option String}

/-- One of these exchanges has a reply that is read from this collection. -/
def ReadFrom (folder : String) (xs : List Exchanged) (e : Element) : Prop :=
  ∃ x ∈ xs, x.1.command = "Sync" ∧
    ∃ root, Exchange.documentOf "Sync" x.2 = .ok (some root) ∧ Chosen root folder e

/-- A reply that has collections, none of them with the id of the folder. -/
def Foreign (folder : String) (reply : Except TransportError Reply) : Prop :=
  ∃ root, Exchange.documentOf "Sync" reply = .ok (some root) ∧ collectionsIn root ≠ [] ∧
    ∀ e ∈ collectionsIn root, e.childText? AirSync.collectionId ≠ some folder

namespace ReadFrom
variable {xs ys : List Exchanged} {e : Element}

theorem append_left (h : ReadFrom folder xs e) (ys : List Exchanged) :
    ReadFrom folder (xs ++ ys) e := by
  obtain ⟨x, hx, hread⟩ := h
  exact ⟨x, List.mem_append_left ys hx, hread⟩

/-- A reply that has a collection with the id of the folder is not read from any other. -/
theorem names (h : ReadFrom folder xs e) (hown : ∀ x ∈ xs, ¬Foreign folder x.2) :
    e.childText? AirSync.collectionId = some folder := by
  obtain ⟨x, hx, -, root, hroot, hchosen⟩ := h
  cases hchosen with
  | named split named others => exact named
  | first split unnamed =>
    have hsome : collectionsIn root ≠ [] := by simp [split]
    exact absurd ⟨root, hroot, hsome, unnamed⟩ (hown x hx)

end ReadFrom

/-! ### One reply -/

theorem exists_root_of_response? {reply : Except TransportError Reply} {r : Response}
    (h : response? folder reply = some r) :
    ∃ root, Exchange.documentOf "Sync" reply = .ok (some root) ∧
      Response.ofDocument root folder = .ok r := by
  unfold response? at h
  split at h
  · next root hroot => exact ⟨root, hroot, toOption_eq_some_iff.mp h⟩
  · cases h

/-- Without a collection there is nothing to take. -/
theorem exists_chosen_of_ofDocument {root : Element} {r : Response}
    (h : Response.ofDocument root folder = .ok r) :
    (∃ e, Chosen root folder e ∧ Response.ofCollection e = .ok r) ∨
      r.deltas = [] ∧ r.responses = [] := by
  obtain ⟨_, -, h⟩ := bind_eq_ok_iff.mp h
  split at h
  · next e he => exact .inl ⟨e, choose?_eq_some_iff.mp he, h⟩
  · obtain ⟨status, -, h⟩ := bind_eq_ok_iff.mp h
    obtain rfl := Except.ok.inj h
    exact .inr ⟨rfl, rfl⟩

theorem exists_readFrom {xs : List Exchanged} {x : Exchanged} (hx : x ∈ xs)
    (hcommand : x.1.command = "Sync") {r : Response} (hr : response? folder x.2 = some r)
    (hbrings : r.deltas ≠ [] ∨ r.responses ≠ []) :
    ∃ e, ReadFrom folder xs e ∧ Response.ofCollection e = .ok r := by
  obtain ⟨root, hroot, hresponse⟩ := exists_root_of_response? hr
  rcases exists_chosen_of_ofDocument hresponse with ⟨e, hchosen, he⟩ | ⟨hdeltas, hresponses⟩
  · exact ⟨e, ⟨x, hx, hcommand, root, hroot, hchosen⟩, he⟩
  · exact absurd hbrings (by simp [hdeltas, hresponses])

theorem exists_readFrom_of_mem_changes {xs : List Exchanged} {x : Exchanged} (hx : x ∈ xs)
    (hcommand : x.1.command = "Sync") {d : Delta} (hd : d ∈ changes folder x.2) :
    ∃ e r, ReadFrom folder xs e ∧ Response.ofCollection e = .ok r ∧ d ∈ r.deltas := by
  unfold changes at hd
  cases hr : response? folder x.2 with
  | none => simp [hr] at hd
  | some r =>
    have hd : d ∈ r.deltas := by simpa [hr] using hd
    obtain ⟨e, hread, he⟩ := exists_readFrom hx hcommand hr (.inl (List.ne_nil_of_mem hd))
    exact ⟨e, r, hread, he, hd⟩

theorem exists_readFrom_of_mem_responses {xs : List Exchanged} {x : Exchanged} (hx : x ∈ xs)
    (hcommand : x.1.command = "Sync") {i : ItemResponse} (hi : i ∈ responses folder x.2) :
    ∃ e r, ReadFrom folder xs e ∧ Response.ofCollection e = .ok r ∧ i ∈ r.responses := by
  unfold responses at hi
  cases hr : response? folder x.2 with
  | none => simp [hr] at hi
  | some r =>
    have hi : i ∈ r.responses := by simpa [hr] using hi
    obtain ⟨e, hread, he⟩ := exists_readFrom hx hcommand hr (.inr (List.ne_nil_of_mem hi))
    exact ⟨e, r, hread, he, hi⟩

/-- The next key is stated where the reply is read, or it is the one that was sent. -/
theorem key_of_outcome {sent : Option String} {reply : Except TransportError Reply}
    {round : Round Batch} (h : outcome folder sent reply = .ok round) :
    (∃ root e, Exchange.documentOf "Sync" reply = .ok (some root) ∧ Chosen root folder e ∧
      e.childText? AirSync.syncKey = some round.key) ∨ sent = some round.key := by
  -- Of the request, only the folder matters.
  have hnext : NextKey (.messages ⟨folder, .all, 0, true, true, none, []⟩) sent reply round.key :=
    nextKey_of_outcome h
  generalize round.key = key at hnext ⊢
  cases hnext with
  | stated states =>
    cases states with
    | messages decodes chosen states =>
      exact .inl ⟨_, _, Exchange.documentOf_eq_some_iff.mpr ⟨_, rfl, decodes⟩, chosen, states⟩
  | kept used unstated => exact .inr rfl

/-! ### A whole pass -/

/-- Where the key of a pass comes from. -/
inductive KeyOrigin (folder : String) (stored : Option String) (xs : List Exchanged) :
    Option String → Prop
  | none : KeyOrigin folder stored xs none
  | stored : KeyOrigin folder stored xs stored
  | read {e : Element} {key : String} (read : ReadFrom folder xs e)
      (states : e.childText? AirSync.syncKey = some key) : KeyOrigin folder stored xs (some key)

theorem KeyOrigin.append_left {xs : List Exchanged} {key : Option String}
    (h : KeyOrigin folder stored xs key) (ys : List Exchanged) :
    KeyOrigin folder stored (xs ++ ys) key := by
  cases h with
  | none => exact .none
  | stored => exact .stored
  | read read states => exact .read (read.append_left ys) states

/-- Each exchange has its reply state a key, or the key stays, or the folder begins again. -/
theorem keyOrigin_along (folder : String) (stored : Option String) (xs : List Exchanged) :
    KeyOrigin folder stored xs ((dialogue folder stored).along xs).key := by
  induction xs using List.reverseRecOn with
  | nil => exact .stored
  | append_singleton xs x ih =>
    rw [Dialogue.along_concat]
    rcases (dialogue folder stored).after_cases ((dialogue folder stored).along xs) x with
      ⟨hcommand, round, ho, ha⟩ | ⟨v, key, hkey, ha⟩ | ha
    · rw [ha]
      rcases key_of_outcome ho with ⟨root, e, hroot, hchosen, hstates⟩ | hsent
      · have hlast : x ∈ xs ++ [x] := by simp
        exact .read ⟨x, hlast, hcommand, root, hroot, hchosen⟩ hstates
      · have hst := ih.append_left [x]
        rw [hsent] at hst
        exact hst
    · rw [ha]
      simp only [dialogue] at hkey
      split_ifs at hkey
      · obtain rfl := Option.some.inj hkey
        exact .none
      · obtain rfl := Option.some.inj hkey
        exact .stored
    · rw [ha]
      exact ih.append_left [x]

/-- What a pass takes, whatever the server answers and however many collections it puts in a reply:
each change, each verdict and the key come from a collection that a reply to it was read from. That
is the first one of the reply with the id of the folder, and another one only in a reply that has
no collection with that id. -/
theorem pass_takes_what_it_reads (hs : s.Solitary) {sess : Session} {folder : String}
    {errand : Errand} {w v : World Memory} {c : Collected}
    (h : (pass sess folder errand).runIn s w = (.ok c, v)) :
    (∀ d ∈ c.batch.deltas, ∃ e r, ReadFrom folder (w.since v) e ∧
        Response.ofCollection e = .ok r ∧ d ∈ r.deltas) ∧
      (∀ i ∈ c.batch.responses, ∃ e r, ReadFrom folder (w.since v) e ∧
        Response.ofCollection e = .ok r ∧ i ∈ r.responses) ∧
      (c.key = w.mailbox.key? folder ∨ ∃ e, ReadFrom folder (w.since v) e ∧
        e.childText? AirSync.syncKey = c.key) ∧
      ((∀ x ∈ w.since v, ¬Foreign folder x.2) → ∀ e, ReadFrom folder (w.since v) e →
        e.childText? AirSync.collectionId = some folder) := by
  obtain ⟨-, p, rounds, rfl, ht, ha⟩ := (ensures_pass_tracks hs sess folder w).ok h
  have hbatch : p.batch = batchOf folder (standing folder w v) := ht.batchOf
  refine ⟨fun d hd => ?_, fun i hi => ?_, ?_, fun hown e he => he.names hown⟩
  · have hd : d ∈ (standing folder w v).gathered (changes folder) := by rwa [hbatch] at hd
    obtain ⟨a, hmem, hd⟩ := List.mem_flatMap.mp hd
    obtain ⟨x, hx, hcommand, hreply⟩ := Dialogue.exists_of_mem_accepted hmem
    exact exists_readFrom_of_mem_changes hx hcommand (hreply ▸ hd)
  · have hi : i ∈ (standing folder w v).gathered (responses folder) := by rwa [hbatch] at hi
    obtain ⟨a, hmem, hi⟩ := List.mem_flatMap.mp hi
    obtain ⟨x, hx, hcommand, hreply⟩ := Dialogue.exists_of_mem_accepted hmem
    exact exists_readFrom_of_mem_responses hx hcommand (hreply ▸ hi)
  · have horigin : KeyOrigin folder (w.mailbox.key? folder) (w.since v) p.key :=
      ht.key ▸ keyOrigin_along folder _ _
    obtain ⟨a, hlast⟩ := Option.ne_none_iff_exists'.mp (mt List.getLast?_eq_none_iff.mp ha)
    have hkey := ht.key.trans (keyed_standing folder w v a hlast)
    change p.key = _ ∨ ∃ e, _ ∧ _ = p.key
    generalize p.key = key at hkey horigin ⊢
    cases horigin with
    | none => cases hkey
    | stored => exact .inl rfl
    | read read states => exact .inr ⟨_, read, states⟩

/-- A message and a key for the folder with this id. -/
def bringing (collection : String) : Element :=
  .node AirSync.collection [.text AirSync.syncKey (collection ++ "-key"),
    .text AirSync.collectionId collection, .number AirSync.status 1,
    .node AirSync.commands [.node AirSync.add [.text AirSync.serverId (collection ++ ":1")]]]

/-- A server whose only reply is about folders with these ids, in this order. -/
def answeringFor (collections : List String) : Script Memory where
  replies := [.ok ⟨200, (Element.node AirSync.sync
    [.node AirSync.collections (collections.map bringing)]).encode⟩]
  meanwhile := []
  id := ""

theorem solitary_answeringFor (collections : List String) :
    (answeringFor collections).surroundings.Solitary :=
  Script.solitary_surroundings fun _ h => nomatch h

/-- After the collection of another folder, the folder's own one is read. -/
theorem own_among_others_is_read : ∃ c v,
    (pass .sample "5" .changes).runIn (answeringFor ["6", "5"]).surroundings keyedInbox =
        (.ok c, v) ∧
      c.batch.deltas = [.add (.blank "5:1")] ∧ c.key = some "5-key" ∧
      ∀ d ∈ c.batch.deltas, ∃ e r, ReadFrom "5" (keyedInbox.since v) e ∧
        Response.ofCollection e = .ok r ∧ d ∈ r.deltas := by
  have hrun : ((pass .sample "5" .changes).runIn
      (answeringFor ["6", "5"]).surroundings keyedInbox).1 =
        .ok ⟨⟨false, [.add (.blank "5:1")], []⟩, some "4", some "5-key", 1⟩ := rfl
  have htakes := pass_takes_what_it_reads (solitary_answeringFor _) (Prod.ext hrun rfl)
  exact ⟨_, _, Prod.ext hrun rfl, rfl, rfl, htakes.1⟩

/-- In a reply that is about another folder only, the changes and the key of that folder are taken
for the pass's own. -/
theorem not_only_own_is_taken :
    ¬∀ (s : Surroundings Memory) (sess : Session) (folder : String) (w v : World Memory)
      (c : Collected) (request : MailSync.Request) (reply : Except TransportError Reply)
      (root : Element), s.Solitary →
      (pass sess folder .changes).runIn s w = (.ok c, v) → w.since v = [(request, reply)] →
      Exchange.documentOf "Sync" reply = .ok (some root) → collectionsIn root ≠ [] →
      (∀ e ∈ collectionsIn root,
        ∃ id, e.childText? AirSync.collectionId = some id ∧ id ≠ folder) →
      c.batch.deltas = [] ∧ c.key = w.mailbox.key? folder := by
  intro hall
  have hrun : ((pass .sample "5" .changes).runIn (answeringFor ["6"]).surroundings keyedInbox).1 =
      .ok ⟨⟨false, [.add (.blank "6:1")], []⟩, some "4", some "6-key", 1⟩ := rfl
  have hforeign : ∀ e ∈ [bringing "6"],
      ∃ id, e.childText? AirSync.collectionId = some id ∧ id ≠ "5" := by
    intro e he
    obtain rfl := List.mem_singleton.mp he
    exact ⟨"6", rfl, by decide⟩
  have htaken := hall _ .sample "5" keyedInbox _ _ _ _
    (.node AirSync.sync [.node AirSync.collections [bringing "6"]]) (solitary_answeringFor ["6"])
    (Prod.ext hrun rfl) rfl rfl (List.cons_ne_nil _ _) hforeign
  exact absurd htaken.1 (List.cons_ne_nil _ _)

end MailSync.Collection
