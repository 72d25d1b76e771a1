import MailSync.Proofs.Collection.Fetching
import MailSync.Proofs.Locks

/-!
# What a download answers

A download asks for one message, but its pass takes whatever changes the server reports. The answer
is the last message of them that came in full, or that something was taken out. So it is about the
message that was asked for, and agrees with what is stored under its id, if no other comes after
that message. With others behind it need not be.
-/
namespace MailSync

/-- Whoever is done under a lock no longer holds it. -/
theorem Operation.not_isHeld_of_withLock {α : Type} {s : Surroundings Mailbox.Memory}
    {w v : World Mailbox.Memory} {lock : String} {op : Operation α} {a : α}
    (h : (withLock lock op).runIn s w = (.ok a, v)) : ¬v.locks.isHeld lock = true := by
  cases hl : w.locks.acquire? lock with
  | none =>
    rw [runIn_withLock_held hl] at h
    cases (Prod.mk.inj h).1
  | some locks =>
    rw [runIn_withLock_free hl] at h
    rw [← (Prod.mk.inj h).2]
    exact fun hheld => ((Locks.isHeld_release ..).mp hheld).1 rfl

namespace Collection
open Mailbox (Memory keyMark)
open Operation (Ensures)

variable {s : Surroundings Memory} {sess : Session} {folder id : String} {w v : World Memory}

/-! ### The last message that came in full -/

/-- The last message that came in full has none such after it. -/
theorem Batch.split_at_last {b : Batch} {m : Message} (h : b.completed.getLast? = some m) :
    ∃ before after, b.deltas = before ++ .add m :: after ∧ m.truncated = false ∧
      ∀ m', .add m' ∈ after → m'.truncated = true := by
  obtain ⟨ms, hms⟩ := List.getLast?_eq_some_iff.mp h
  obtain ⟨early, rest, hadded, -, hrest⟩ := List.filter_eq_append_iff.mp hms
  obtain ⟨cut, late, rfl, -, hwhole, hlate⟩ := List.filter_eq_cons_iff.mp hrest
  rw [← List.append_assoc] at hadded
  obtain ⟨before, rest, hdeltas, -, hrest⟩ := List.filterMap_eq_append_iff.mp hadded
  obtain ⟨skipped, d, after, rfl, -, hd, hafter⟩ := List.filterMap_eq_cons_iff.mp hrest
  obtain rfl : d = .add m := by cases d <;> cases hd; rfl
  refine ⟨before ++ skipped, after, by rw [hdeltas, List.append_assoc], by simpa using hwhole,
    fun m' hm' => ?_⟩
  have hmem : m' ∈ late := hafter ▸ List.mem_filterMap.mpr ⟨_, hm', rfl⟩
  have hcut := List.filter_eq_nil_iff.mp hlate m' hmem
  simpa using hcut

theorem Batch.truncated_of_completed_eq_nil {b : Batch} (h : b.completed = []) {m : Message}
    (hm : .add m ∈ b.deltas) : m.truncated = true := by
  simpa using List.filter_eq_nil_iff.mp h m (Batch.mem_added.mpr hm)

/-- Without a message that comes in full, what is not there stays away. -/
theorem foldl_onMessage_none {ds : List Delta} (h : ∀ m, .add m ∈ ds → m.truncated = true)
    (id : String) : ds.foldl (Delta.onMessage .whole id) none = none := by
  induction ds with
  | nil => rfl
  | cons d ds ih =>
    have hd : d.onMessage .whole id none = none := by
      cases d with
      | add m =>
        have hm := h m List.mem_cons_self
        simp only [Delta.onMessage, Bodies.rejects, hm]
        split_ifs <;> first | rfl | contradiction
      | flag i which state => simp only [Delta.onMessage, Option.map_none, ite_self]
      | delete i => simp only [Delta.onMessage, ite_self]
    rw [List.foldl_cons, hd]
    exact ih fun m hm => h m (List.mem_cons_of_mem d hm)

/-- A message that was cut short again is not there. -/
theorem foldl_onMessage_of_cut_short {ds : List Delta}
    (h : ∀ m, .add m ∈ ds → m.truncated = true) {m : Message} (hm : .add m ∈ ds)
    (x : Option StoredMessage) : ds.foldl (Delta.onMessage .whole m.id) x = none := by
  obtain ⟨before, after, rfl⟩ := List.append_of_mem hm
  have hnone (y : Option StoredMessage) : (Delta.add m).onMessage .whole m.id y = none := by
    rw [Delta.onMessage, if_pos rfl, Bodies.rejects, h m hm]
    rfl
  rw [List.foldl_append, List.foldl_cons, hnone]
  exact foldl_onMessage_none (fun m' hm' =>
    h m' (List.mem_append_right _ (List.mem_cons_of_mem _ hm'))) m.id

/-! ### The answer -/

/-- What an answer says about the changes that were accepted for it, and about what is stored. -/
def Answers (folder id : String) (changes : List Delta) (w v : World Memory) :
    DownloadOutcome → Prop
  | .alreadyComplete => v = w ∧ ∃ m, w.mailbox.message? folder id = some ⟨m, .complete⟩
  | .downloaded m => ∃ before after, changes = before ++ .add m :: after ∧ m.truncated = false ∧
      (∀ m', .add m' ∈ after → m'.truncated = true) ∧
      v.mailbox.message? folder m.id =
        after.foldl (Delta.onMessage .whole m.id) (some ⟨m, .complete⟩)
  | .discarded => (∀ m, .add m ∈ changes → m.truncated = true) ∧
      (v.mailbox.message? folder id = none ∨ ∃ m, .add m ∈ changes ∧ m.id ≠ id)

/-- Changes of which the last message in full is the one asked for, and is left alone then. If none
comes in full, no other message is cut short. -/
structure Serves (id : String) (changes : List Delta) : Prop where
  last : ∀ before m after, changes = before ++ .add m :: after → m.truncated = false →
    (∀ m', .add m' ∈ after → m'.truncated = true) → m.id = id ∧ ∀ d ∈ after, d.id ≠ id
  cut : (∀ m, .add m ∈ changes → m.truncated = true) → ∀ m, .add m ∈ changes → m.id = id

theorem serves_singleton (m : Message) : Serves m.id [.add m] where
  last before m' after h _ _ := by
    cases before with
    | nil =>
      obtain ⟨hm, rfl⟩ := List.cons.inj h
      cases hm
      exact ⟨rfl, List.forall_mem_nil _⟩
    | cons d before =>
      exact absurd (List.cons.inj h).2.symm (List.append_ne_nil_of_right_ne_nil _
        (List.cons_ne_nil _ _))
  cut _ m' hm' := by
    cases List.mem_singleton.mp hm'
    rfl

/-- An answer for the message that was asked for: it is stored as it was answered, so that to ask
again sends and changes nothing; or it is gone; or it was there all along. -/
def Fits (folder id : String) (w v : World Memory) : DownloadOutcome → Prop
  | .alreadyComplete => v = w
  | .downloaded m => m.id = id ∧ v.mailbox.message? folder id = some ⟨m, .complete⟩ ∧
      ∀ (s : Surroundings Memory) (sess : Session),
        (download sess folder id).runIn s v = (.ok .alreadyComplete, v)
  | .discarded => v.mailbox.message? folder id = none

/-- To download what is stored in full does nothing. -/
theorem runIn_download_of_complete {m : Message}
    (hm : v.mailbox.message? folder id = some ⟨m, .complete⟩)
    (hl : ¬v.locks.isHeld (Locks.ofFolder folder) = true) (sess : Session)
    (s : Surroundings Memory) :
    (download sess folder id).runIn s v = (.ok .alreadyComplete, v) := by
  obtain ⟨locks, hlocks⟩ := Option.isSome_iff_exists.mp (Locks.acquire?_isSome_iff.mpr hl)
  have hread : (Operation.ask (.message folder id)).runIn s { v with locks } =
      (.ok (some ⟨m, .complete⟩), { v with locks }) := by
    rw [← hm]
    exact Operation.runIn_ask_read rfl s _
  have hback : { v with locks := locks.release (Locks.ofFolder folder) } = v := by
    rw [Locks.release_acquire hlocks]
  rw [download, Operation.runIn_withLock_free hlocks,
    Operation.runIn_bind_ok (runIn_requireFolder (w := { v with locks })
      (Memory.mem_of_message? hm)),
    Operation.runIn_bind_ok hread]
  exact congrArg (Prod.mk _) hback

/-- What a fetch of one message reports is true of the changes that were landed. -/
theorem Landed.answers {b : Batch} {gone : List String} {r : Report} {o : DownloadOutcome}
    (h : Landed folder .whole b gone w v) (hr : Reports b [id] gone r)
    (ho : r.Says o) :
    Answers folder id ((standing folder w v).gathered (changes folder)) w v o := by
  rw [← h.deltas]
  cases o with
  | alreadyComplete => exact ho.elim
  | downloaded m =>
    have hlast : b.completed.getLast? = some m := hr.downloaded ▸ ho
    obtain ⟨before, after, hdeltas, hwhole, hafter⟩ := Batch.split_at_last hlast
    -- What came in full is not settled away, even if it is not what was asked for.
    have hm : m.id ∉ gone := fun hmem =>
      (hr.gone _ hmem).2 (List.mem_map_of_mem (List.mem_of_getLast? hlast))
    refine ⟨before, after, hdeltas, hwhole, hafter, ?_⟩
    rw [h.message?, if_neg hm, hdeltas, List.foldl_append, List.foldl_cons,
      Delta.onMessage_add hwhole]
  | discarded =>
    have hcut (m : Message) (hm : .add m ∈ b.deltas) : m.truncated = true :=
      Batch.truncated_of_completed_eq_nil (hr.downloaded ▸ ho.1) hm
    refine ⟨hcut, ?_⟩
    have hdiscarded := ho.2
    rw [hr.discarded] at hdiscarded
    obtain ⟨i, hi⟩ := List.exists_mem_of_ne_nil _ hdiscarded
    rcases List.mem_append.mp hi with hrejected | hgone
    · obtain ⟨m, hm, rfl⟩ := List.mem_map.mp hrejected
      have hd := Batch.mem_added.mp (List.mem_filter.mp hm).1
      by_cases hid : m.id = id
      · left
        rw [h.message?, ← hid, foldl_onMessage_of_cut_short hcut hd, ite_self]
      · exact .inr ⟨m, hd, hid⟩
    · obtain rfl := List.mem_singleton.mp (hr.gone i hgone).1
      exact .inl (by rw [h.message?, if_pos hgone])

theorem ensures_download (hs : s.Solitary) (sess : Session) (folder id : String)
    (w : World Memory) :
    Ensures (download sess folder id) s w
      (fun o v => Answers folder id ((standing folder w v).gathered (changes folder)) w v o)
      fun _ _ => True := by
  refine ensures_download_of_fetch (fun _ => trivial) (fun m hm => ⟨rfl, m, hm⟩) fun locks => ?_
  have hpass : Ensures (pass sess folder (.fetch [id])) s { w with locks } (fun _ _ => True)
      fun _ _ => True := .of_run fun r _ _ => by cases r <;> trivial
  refine (ensures_fetch_lands hs hpass).mono ?_ fun _ _ _ _ => trivial
  rintro r v ⟨b, gone, hlanded, hr⟩ l
  exact ⟨fun o ho => hlanded.locks.answers hr ho, fun _ => trivial⟩

/-- What a download answers is true of the changes that were accepted since it began, and of what is
stored. If these changes serve the message that was asked for, the answer fits it. -/
theorem download_answers (hs : s.Solitary) (sess : Session) {o : DownloadOutcome}
    (h : (download sess folder id).runIn s w = (.ok o, v)) :
    Answers folder id ((standing folder w v).gathered (changes folder)) w v o ∧
    (Serves id ((standing folder w v).gathered (changes folder)) → Fits folder id w v o) := by
  have hanswers := (ensures_download hs sess folder id w).ok h
  have hl := Operation.not_isHeld_of_withLock h
  refine ⟨hanswers, fun hserves => ?_⟩
  cases o with
  | alreadyComplete => exact hanswers.1
  | downloaded m =>
    obtain ⟨before, after, hchanges, hwhole, hafter, hstored⟩ := hanswers
    obtain ⟨hid, hlater⟩ := hserves.last before m after hchanges hwhole hafter
    have hpass : ∀ d ∈ after, ∀ x, d.onMessage .whole m.id x = x := fun d hd x =>
      d.onMessage_of_ne (hid ▸ hlater d hd) .whole x
    rw [foldl_of_passing hpass, hid] at hstored
    exact ⟨hid, hstored, fun s sess => runIn_download_of_complete hstored hl sess s⟩
  | discarded =>
    exact hanswers.2.resolve_right fun ⟨m, hm, hne⟩ => hne (hserves.cut hanswers.1 m hm)

/-- A world with a message that was cut short. -/
def cutShort : World Memory := .start (World.inbox.mailbox.after
  [.saveMessage "5" { Message.blank "5:1" with truncated := true } .truncated,
    .setFolderExtra "5" keyMark (some "4")])

/-- A server that delivers the message it was asked for. -/
def serving : Script Memory where
  replies := [Response.reply
    ⟨1, some "5", false, [.add (.blank "5:1")], [⟨"5:1", .fetch, 1⟩]⟩ "5"]
  meanwhile := []
  id := ""

theorem serving_answers : ∃ v,
    (download .sample "5" "5:1").runIn serving.surroundings cutShort =
      (.ok (.downloaded (.blank "5:1")), v) ∧
    Serves "5:1" ((standing "5" cutShort v).gathered (changes "5")) ∧
    Fits "5" "5:1" cutShort v (.downloaded (.blank "5:1")) := by
  have hs : serving.surroundings.Solitary := Script.solitary_surroundings fun _ h => nomatch h
  have hrun : (download .sample "5" "5:1").runIn serving.surroundings cutShort =
      (.ok (.downloaded (.blank "5:1")),
        ((download .sample "5" "5:1").runIn serving.surroundings cutShort).2) := Prod.ext rfl rfl
  have hchanges : (standing "5" cutShort
      ((download .sample "5" "5:1").runIn serving.surroundings cutShort).2).gathered (changes "5") =
        [.add (.blank "5:1")] := rfl
  refine ⟨_, hrun, hchanges ▸ serves_singleton (.blank "5:1"), ?_⟩
  exact (download_answers hs .sample hrun).2 (hchanges ▸ serves_singleton (.blank "5:1"))

/-- A server that delivers the message it was asked for and then reports a new one. -/
def pushing : Script Memory where
  replies := [
    Response.reply ⟨1, some "5", true, [.add (.blank "5:1")], [⟨"5:1", .fetch, 1⟩]⟩ "5",
    Response.reply ⟨1, some "6", false, [.add (.blank "5:2")], []⟩ "5"]
  meanwhile := []
  id := ""

/-- Not every answer fits the message that was asked for. -/
theorem not_every_answer_fits :
    ¬∀ (s : Surroundings Memory) (sess : Session) (folder id : String) (w v : World Memory)
      (o : DownloadOutcome), s.Solitary → (download sess folder id).runIn s w = (.ok o, v) →
        Fits folder id w v o := by
  intro h
  have hrun : (download .sample "5" "5:1").runIn pushing.surroundings cutShort =
      (.ok (.downloaded (.blank "5:2")),
        ((download .sample "5" "5:1").runIn pushing.surroundings cutShort).2) := Prod.ext rfl rfl
  have hs : pushing.surroundings.Solitary := Script.solitary_surroundings fun _ h => nomatch h
  exact absurd (h _ _ _ _ _ _ _ hs hrun).1 (by decide)

end Collection
end MailSync
