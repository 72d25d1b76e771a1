import Mathlib.Data.List.Induction
import MailSync.Collection.Orders
import MailSync.Proofs.Collection.Fetching
import MailSync.Proofs.Relocation.Outcome

/-!
# What a deletion leaves in its folder

The last verdict that was accepted on a message decides what is recorded of it, whatever came before
a restart, and what is recorded as deleted is not stored afterwards. Whatever else is stored stays,
unless the server reports it as deleted or takes the key of the folder away. A deletion asks for no
changes; so where it begins from an initial key, or has to begin again from one, it empties the
folder, and nothing comes in place of what was there.
-/
namespace MailSync.Collection
open Mailbox (Memory keyMark)
open Operation (Ensures)
open Relocation (ExactlyOne)

variable {s : Surroundings Memory} {sess : Session} {folder : String} {w v : World Memory}

/-! ### What is recorded -/

theorem deletionStatus_eq_success_iff {status : Option UInt32} :
    deletionStatus status = .success ↔ status ∈ [none, some 1, some 8] := by
  cases status with
  | none => simp [deletionStatus]
  | some n =>
    simp only [deletionStatus, List.mem_cons, Option.some.injEq, List.not_mem_nil, or_false,
      reduceCtorEq, false_or]
    split_ifs with hdone
    · exact iff_of_true rfl hdone
    · exact iff_of_false nofun hdone
    · exact iff_of_false nofun hdone

theorem deletionStatus_eq_retry_iff {status : Option UInt32} :
    deletionStatus status = .retry ↔ status ∈ [some 5, some 7, some 16] := by
  cases status with
  | none => simp [deletionStatus]
  | some n =>
    simp only [deletionStatus, List.mem_cons, Option.some.injEq, List.not_mem_nil, or_false]
    split_ifs with hdone hlater
    · apply iff_of_false nofun
      rcases hdone with rfl | rfl <;> decide
    · exact iff_of_true rfl hlater
    · exact iff_of_false nofun hlater

theorem deletionStatus_eq_revert_iff {status : Option UInt32} :
    deletionStatus status = .revert ↔
      status ∉ [none, some 1, some 8] ∧ status ∉ [some 5, some 7, some 16] := by
  rw [← deletionStatus_eq_success_iff, ← deletionStatus_eq_retry_iff]
  cases deletionStatus status <;> simp

/-- Each id goes to one list, in the order of the request. -/
theorem deletionOutcome_eq (b : Batch) (ids : List String) :
    deletionOutcome b ids =
      ⟨ids.filter fun id => deletionStatus (b.status? id .delete) = .success,
        ids.filter fun id => deletionStatus (b.status? id .delete) = .retry,
        ids.filter fun id => deletionStatus (b.status? id .delete) = .revert⟩ := by
  induction ids using List.reverseRecOn with
  | nil => rfl
  | append_singleton ids id ih =>
    rw [deletionOutcome, List.foldl_append, ← deletionOutcome, ih]
    simp only [List.foldl_cons, List.foldl_nil, List.filter_append, List.filter_cons,
      List.filter_nil]
    cases deletionStatus (b.status? id .delete) <;> simp [DeleteOutcome.record]

theorem exactlyOne_deletionOutcome (b : Batch) {ids : List String} {id : String} (h : id ∈ ids) :
    ExactlyOne (id ∈ (deletionOutcome b ids).deleted) (id ∈ (deletionOutcome b ids).retry)
      (id ∈ (deletionOutcome b ids).revert) := by
  simp only [deletionOutcome_eq, List.mem_filter, h, true_and, decide_eq_true_eq, ExactlyOne]
  cases deletionStatus (b.status? id .delete) <;> simp

/-- The last verdict that was accepted on a command of a kind about a message. -/
def status? (folder : String) (st : Standing) (id : String) (kind : ResponseKind) :
    Option UInt32 :=
  ((st.gathered (responses folder)).filter fun r =>
    r.kind = kind ∧ r.id = id).getLast?.map (·.status)

theorem status?_batchOf (folder : String) (st : Standing) (id : String) (kind : ResponseKind) :
    (batchOf folder st).status? id kind = status? folder st id kind := by
  rw [Batch.status?, status?, List.getLast?_filter, batchOf]

/-! ### What is stored -/

theorem Landed.refl (folder : String) (bodies : Bodies) (w : World Memory) :
    Landed folder bodies .none [] w w where
  history := List.prefix_rfl
  batch := by rw [standing_self]; rfl
  message? id := (if_neg List.not_mem_nil).symm

/-- A deletion that ends well has landed what was accepted, and then taken out what it records as
deleted. -/
theorem ensures_deleteMessages_lands (hs : s.Solitary) (ids : List String) :
    Ensures (deleteMessages sess folder ids) s w
      (fun o v => ∃ b, o = deletionOutcome b ids ∧ Landed folder .any b o.deleted w v)
      fun _ _ => True := by
  unfold deleteMessages
  split_ifs with hids
  -- For no ids at all nothing is sent, and nothing has been accepted.
  · rw [List.isEmpty_iff.mp hids]
    exact .pure ⟨.none, rfl, .refl folder .any w⟩
  · refine .withLock trivial fun locks _ => ?_
    refine (ensures_pass_tracks hs sess folder { w with locks }).bind ?_
    rintro _ v ⟨hfw, p, rounds, rfl, ht, -⟩
    have hf := ht.mem_folders hfw
    obtain ⟨n, hn⟩ := p.batch.runIn_write .any s hf
    obtain ⟨hf', hlanded⟩ := ht.landed hf .any
      (takesOut_destroy folder (deletionOutcome p.batch ids).deleted) rounds
    refine .bind_ok (a := ()) (by rw [Operation.runIn_discard, hn]; rfl) ?_
    refine .bind_ok (Operation.runIn_ask_write rfl s _) ?_
    exact .bind_ok (runIn_commit hf' _) (.pure ⟨p.batch, rfl, hlanded.locks⟩)

/-- A message that is stored stays through changes that do not delete it. -/
theorem foldl_onMessage_ne_none {ds : List Delta} {id : String} (h : .delete id ∉ ds)
    {x : Option StoredMessage} (hx : x ≠ none) :
    ds.foldl (Delta.onMessage .any id) x ≠ none := by
  induction ds generalizing x with
  | nil => exact hx
  | cons d ds ih =>
    apply ih fun hmem => h (List.mem_cons_of_mem d hmem)
    cases d with
    | add m =>
      simp only [Delta.onMessage]
      split_ifs with hid hrejects
      · cases hrejects
      · exact Option.some_ne_none _
      · exact hx
    | flag i which state =>
      simp only [Delta.onMessage]
      split_ifs
      · exact mt Option.map_eq_none_iff.mp hx
      · exact hx
    | delete i =>
      have hne : i ≠ id := by
        rintro rfl
        exact h List.mem_cons_self
      simp only [Delta.onMessage, if_neg hne]
      exact hx

/-- A deletion that ends well. Each id asked for is recorded once for each time it was asked for, in
the order of the request: as deleted if the last verdict accepted on its deletion is 1 or 8 or there
is none, to be tried again for 5, 7 and 16, and else as refused. What is recorded as deleted is
gone, and every other message is what the accepted changes made of it, or of nothing if an initial
key was answered. Without such an answer, what was stored and is not recorded as deleted stays
unless the changes delete it. -/
theorem deletions_match_mailbox (hs : s.Solitary) (sess : Session) {ids : List String}
    {o : DeleteOutcome} (h : (deleteMessages sess folder ids).runIn s w = (.ok o, v)) :
    o.deleted = ids.filter (fun id =>
      status? folder (standing folder w v) id .delete ∈ [none, some 1, some 8]) ∧
    o.retry = ids.filter (fun id =>
      status? folder (standing folder w v) id .delete ∈ [some 5, some 7, some 16]) ∧
    o.revert = ids.filter (fun id =>
      status? folder (standing folder w v) id .delete ∉ [none, some 1, some 8] ∧
        status? folder (standing folder w v) id .delete ∉ [some 5, some 7, some 16]) ∧
    (∀ id ∈ ids, ExactlyOne (id ∈ o.deleted) (id ∈ o.retry) (id ∈ o.revert)) ∧
    (∀ id ∈ o.deleted, v.mailbox.message? folder id = none) ∧
    (∀ id, id ∉ o.deleted → v.mailbox.message? folder id =
      ((standing folder w v).gathered (changes folder)).foldl (Delta.onMessage .any id)
        (if (standing folder w v).isFresh then none else w.mailbox.message? folder id)) ∧
    ((standing folder w v).isFresh = false → ∀ id, w.mailbox.message? folder id ≠ none →
      id ∉ o.deleted → .delete id ∉ (standing folder w v).gathered (changes folder) →
      v.mailbox.message? folder id ≠ none) := by
  obtain ⟨b, hoe, hlanded⟩ := (ensures_deleteMessages_lands hs ids).ok h
  have hmessage (id : String) (hid : id ∉ o.deleted) : v.mailbox.message? folder id =
      ((standing folder w v).gathered (changes folder)).foldl (Delta.onMessage .any id)
        (if (standing folder w v).isFresh then none else w.mailbox.message? folder id) := by
    rw [hlanded.message?, if_neg hid, hlanded.batch]
    rfl
  have hone (id : String) (hid : id ∈ ids) :
      ExactlyOne (id ∈ o.deleted) (id ∈ o.retry) (id ∈ o.revert) :=
    hoe ▸ exactlyOne_deletionOutcome b hid
  rw [deletionOutcome_eq, hlanded.batch] at hoe
  simp only [status?_batchOf, deletionStatus_eq_success_iff, deletionStatus_eq_retry_iff,
    deletionStatus_eq_revert_iff] at hoe
  refine ⟨congrArg DeleteOutcome.deleted hoe, congrArg DeleteOutcome.retry hoe,
    congrArg DeleteOutcome.revert hoe, hone, ?_, hmessage, ?_⟩
  · intro id hid
    rw [hlanded.message?, if_pos hid]
  · intro hfresh id hstored hid hdelete
    rw [hmessage id hid, hfresh]
    exact foldl_onMessage_ne_none hdelete hstored

/-- A world with a folder that has a key and holds messages with these ids. -/
def filled (ids : List String) : World Memory := .start (World.inbox.mailbox.after
  (.setFolderExtra "5" keyMark (some "4") ::
    ids.map fun id => .saveMessage "5" (.blank id) .complete))

/-- A server that takes one deletion, puts another off and refuses a third, says nothing of the
fourth and reports a fifth of its own. -/
def judging : Script Memory where
  replies := [Response.reply ⟨1, some "5", false, [.delete "5:5"],
    [⟨"5:1", .delete, 7⟩, ⟨"5:2", .delete, 7⟩, ⟨"5:4", .delete, 6⟩, ⟨"5:1", .delete, 8⟩]⟩ "5"]
  meanwhile := []
  id := ""

theorem judging_matches_mailbox : judging.surroundings.Solitary ∧ ∃ v,
    (deleteMessages .sample "5" ["5:1", "5:2", "5:3", "5:1", "5:4"]).runIn judging.surroundings
        (filled ["5:1", "5:2", "5:3", "5:4", "5:5", "5:6"]) =
      (.ok ⟨["5:1", "5:3", "5:1"], ["5:2"], ["5:4"]⟩, v) ∧
    v.mailbox.message? "5" "5:1" = none ∧ v.mailbox.message? "5" "5:3" = none ∧
    v.mailbox.message? "5" "5:5" = none ∧
    v.mailbox.message? "5" "5:2" ≠ none ∧ v.mailbox.message? "5" "5:6" ≠ none := by
  have hs : judging.surroundings.Solitary := Script.solitary_surroundings fun _ h => nomatch h
  have hrun : (deleteMessages .sample "5" ["5:1", "5:2", "5:3", "5:1", "5:4"]).runIn
      judging.surroundings (filled ["5:1", "5:2", "5:3", "5:4", "5:5", "5:6"]) =
        (.ok ⟨["5:1", "5:3", "5:1"], ["5:2"], ["5:4"]⟩,
          ((deleteMessages .sample "5" ["5:1", "5:2", "5:3", "5:1", "5:4"]).runIn
            judging.surroundings (filled ["5:1", "5:2", "5:3", "5:4", "5:5", "5:6"])).2) :=
    Prod.ext rfl rfl
  obtain ⟨-, -, -, -, hgone, hmessage, hstays⟩ := deletions_match_mailbox hs .sample hrun
  refine ⟨hs, _, hrun, hgone _ (by decide), hgone _ (by decide), ?_, ?_, ?_⟩
  · exact (hmessage "5:5" (by decide)).trans rfl
  · exact hstays rfl "5:2" (by decide) (by decide) (by decide)
  · exact hstays rfl "5:6" (by decide) (by decide) (by decide)

/-- A server that no longer knows the key of a folder, and takes the deletion with the next one. -/
def forgetting : Script Memory where
  replies := [⟨3, none, false, [], []⟩, ⟨1, some "1", false, [], []⟩,
    ⟨1, some "2", false, [], []⟩].map fun r : Response => r.reply "5"
  meanwhile := []
  id := ""

/-- Not every message stays that no deletion names. -/
theorem not_every_message_stays :
    ¬∀ (s : Surroundings Memory) (sess : Session) (folder : String) (ids : List String)
      (w v : World Memory) (o : DeleteOutcome), s.Solitary →
      (deleteMessages sess folder ids).runIn s w = (.ok o, v) →
      ∀ id, w.mailbox.message? folder id ≠ none → id ∉ o.deleted →
        .delete id ∉ (standing folder w v).gathered (changes folder) →
          v.mailbox.message? folder id ≠ none := by
  intro hall
  have hs : forgetting.surroundings.Solitary := Script.solitary_surroundings fun _ h => nomatch h
  have hrun : (deleteMessages .sample "5" ["5:1"]).runIn forgetting.surroundings
      (filled ["5:1", "5:2"]) = (.ok ⟨["5:1"], [], []⟩,
        ((deleteMessages .sample "5" ["5:1"]).runIn forgetting.surroundings
          (filled ["5:1", "5:2"])).2) := Prod.ext rfl rfl
  apply hall _ _ _ _ _ _ _ hs hrun "5:2"
  · decide
  · decide
  · decide
  · rfl

end MailSync.Collection
