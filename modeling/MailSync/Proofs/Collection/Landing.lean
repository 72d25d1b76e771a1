import MailSync.Collection.Sync
import MailSync.Proofs.Collection.Writing
import MailSync.Proofs.Mailbox.Marks

/-!
# Landing what a pass collected

Once the rounds are in, the batch is written, then the key, then the listener is told. While the
folder is there none of this can fail; nor can the downloads that follow a sync, since they only
count what goes wrong.
-/
namespace MailSync.Collection
open Mailbox (Call Memory keyMark)
open Operation (Ensures)

variable {s : Surroundings Memory} {w : World Memory} {folder : String}

/-- The call that stores the key of a pass, if it moved. -/
def Collected.keyCalls (folder : String) (c : Collected) : List Call :=
  if c.key ≠ c.stored then [.setFolderExtra folder keyMark c.key] else []

theorem runIn_commit (hf : folder ∈ w.mailbox.folders) (c : Collected) :
    (commit folder c).runIn s w = (.ok (), w.written (c.keyCalls folder)) := by
  unfold commit Collected.keyCalls
  split_ifs
  · exact Mailbox.runIn_setKey hf c.key
  · rw [World.written_nil]
    rfl

/-- To store the key takes no folder out. -/
theorem mem_after_keyCalls {m : Memory} (hf : folder ∈ m.folders) (c : Collected) :
    folder ∈ (m.after (c.keyCalls folder)).folders := by
  obtain ⟨k, hk⟩ := Memory.contents_of_mem hf
  unfold Collected.keyCalls
  split_ifs
  · exact Memory.mem_of_contents (Memory.contents_setFolderExtra hk ..)
  · exact hf

/-- The calls that take messages out one at a time. -/
def takenOut (folder : String) (ids : List String) : List Call :=
  ids.map fun id => .destroyMessages folder [id]

theorem edits_takenOut {ids : List String} {c : Call} (h : c ∈ takenOut folder ids) :
    c.Edits folder := by
  obtain ⟨id, -, rfl⟩ := List.mem_map.mp h
  exact .destroy [id]

theorem message?_after_takenOut (m : Memory) (folder : String) (ids : List String) (id : String) :
    (m.after (takenOut folder ids)).message? folder id =
      if id ∈ ids then none else m.message? folder id := by
  induction ids generalizing m with
  | nil => exact (if_neg List.not_mem_nil).symm
  | cons i ids ih =>
    rw [takenOut, List.map_cons, Memory.after_cons, ← takenOut, ih, Memory.message?_next_destroy]
    simp only [List.mem_cons, List.not_mem_nil, or_false]
    by_cases hids : id ∈ ids
    · rw [if_pos hids, if_pos (.inr hids)]
    · simp only [hids, or_false, if_false]

/-- How ids were settled: which were taken out and which failed, beyond what a report says. -/
structure Settled (ids : List String) (r : Report) (gone : List String)
    (failed : List (String × Option UInt32)) : Prop where
  out : ∀ id ∈ gone, id ∈ ids ∧ id ∉ r.downloaded.map (·.id)
  sublist : (failed.map (·.1)).Sublist ids
  /-- No id is passed over. -/
  all : ∀ id ∈ ids, id ∈ r.downloaded.map (·.id) ∨ id ∈ r.discarded ++ gone ∨
    id ∈ failed.map (·.1)

namespace Settled
variable {id : String} {ids gone : List String} {r : Report}
  {failed : List (String × Option UInt32)}

theorem nil (r : Report) : Settled [] r [] [] where
  out := List.forall_mem_nil _
  sublist := List.nil_sublist []
  all := List.forall_mem_nil _

/-- An id that the report knows already. -/
theorem known (h : Settled ids r gone failed)
    (hid : id ∈ r.discarded ∨ r.downloaded.any (·.id = id)) :
    Settled (id :: ids) r gone failed where
  out i hi := (h.out i hi).imp_left (List.mem_cons_of_mem id)
  sublist := h.sublist.cons id
  all := by
    refine List.forall_mem_cons.mpr ⟨?_, h.all⟩
    rcases hid with hid | hid
    · exact .inr (.inl (List.mem_append_left gone hid))
    · obtain ⟨m, hm, he⟩ := List.any_eq_true.mp hid
      exact .inl (List.mem_map.mpr ⟨m, hm, of_decide_eq_true he⟩)

theorem fail {status : Option UInt32}
    (h : Settled ids { r with failed := r.failed ++ [(id, status)] } gone failed) :
    Settled (id :: ids) r gone ((id, status) :: failed) where
  out i hi := (h.out i hi).imp_left (List.mem_cons_of_mem id)
  sublist := h.sublist.cons_cons id
  all := by
    refine List.forall_mem_cons.mpr ⟨.inr (.inr List.mem_cons_self), fun i hi => ?_⟩
    exact (h.all i hi).imp_right (Or.imp_right (List.mem_cons_of_mem id))

theorem takeOut (h : Settled ids { r with discarded := r.discarded ++ [id] } gone failed)
    (hid : ¬(id ∈ r.discarded ∨ r.downloaded.any (·.id = id))) :
    Settled (id :: ids) r (id :: gone) failed where
  out := by
    refine List.forall_mem_cons.mpr ⟨⟨List.mem_cons_self, fun hmem => ?_⟩,
      fun i hi => (h.out i hi).imp_left (List.mem_cons_of_mem id)⟩
    obtain ⟨m, hm, he⟩ := List.mem_map.mp hmem
    exact hid (.inr (List.any_eq_true.mpr ⟨m, hm, decide_eq_true he⟩))
  sublist := h.sublist.cons id
  all := by
    have happend : r.discarded ++ [id] ++ gone = r.discarded ++ id :: gone := by
      rw [List.append_assoc, List.singleton_append]
    refine List.forall_mem_cons.mpr ⟨.inr (.inl (by simp)), fun i hi => ?_⟩
    exact happend ▸ h.all i hi

end Settled

/-- To settle what did not come takes out ids that were asked for, and none that came. -/
theorem runIn_settle (folder : String) (b : Batch) (ids : List String) (r : Report)
    (s : Surroundings Memory) (w : World Memory) :
    ∃ gone failed, (settle folder b ids r).runIn s w =
        (.ok ⟨r.downloaded, r.discarded ++ gone, r.failed ++ failed⟩,
          w.written (takenOut folder gone)) ∧ Settled ids r gone failed := by
  induction ids generalizing r w with
  | nil =>
    refine ⟨[], [], ?_, .nil r⟩
    rw [List.append_nil, List.append_nil, takenOut, List.map_nil, World.written_nil]
    rfl
  | cons id ids ih =>
    unfold settle
    split_ifs with hid
    · obtain ⟨gone, failed, hrun, hsettled⟩ := ih r w
      exact ⟨gone, failed, hrun, hsettled.known hid⟩
    · have hfailed (status : Option UInt32) :
          ∃ gone failed, (settle folder b ids { r with failed := r.failed ++ [(id, status)] }).runIn
              s w = (.ok ⟨r.downloaded, r.discarded ++ gone, r.failed ++ failed⟩,
                w.written (takenOut folder gone)) ∧ Settled (id :: ids) r gone failed := by
        obtain ⟨gone, failed, hrun, hsettled⟩ :=
          ih { r with failed := r.failed ++ [(id, status)] } w
        rw [List.append_assoc] at hrun
        exact ⟨gone, _, hrun, hsettled.fail⟩
      split
      · split_ifs
        · obtain ⟨gone, failed, hrun, hsettled⟩ := ih { r with discarded := r.discarded ++ [id] }
            (w.written [.destroyMessages folder [id]])
          refine ⟨id :: gone, failed, ?_, hsettled.takeOut hid⟩
          rw [Operation.runIn_bind_ok (Operation.runIn_ask_write rfl s w)]
          refine hrun.trans ?_
          rw [List.append_assoc, List.singleton_append, ← World.written_cons]
          rfl
        · exact hfailed _
      · exact hfailed none

/-- Writes what a pass collected, and its key after it. -/
def land (folder : String) (c : Collected) : Operation Nat := do
  let flagsChanged ← c.batch.write folder .any
  commit folder c
  pure flagsChanged

theorem runIn_land (hf : folder ∈ w.mailbox.folders) (c : Collected) :
    ∃ n, (land folder c).runIn s w =
      (.ok n, (w.written (c.batch.calls folder .any)).written (c.keyCalls folder)) := by
  obtain ⟨n, hn⟩ := c.batch.runIn_write .any s hf
  have hf' : folder ∈ (w.written (c.batch.calls folder .any)).mailbox.folders :=
    (Memory.mem_after_of_edits fun _ => Batch.edits_calls).mpr hf
  refine ⟨n, ?_⟩
  rw [land, Operation.runIn_bind_ok hn, Operation.runIn_bind_ok (runIn_commit hf' c)]
  rfl

/-- What follows the landing in a sync. -/
def finish (sess : Session) (folder : String) (c : Collected) (flagsChanged : Nat) :
    Operation Stats := do
  announce folder c.batch.completed
  let stats ← completeAll sess folder (.ofCollected c flagsChanged)
  let ids ← Operation.ask (.truncatedIds folder)
  pure { stats with truncated := ids.length }

section
variable {E : SyncError → World Memory → Prop}

theorem ensures_write (hf : folder ∈ w.mailbox.folders) (bodies : Bodies) (b : Batch) :
    Ensures (b.write folder bodies) s w (fun _ v => folder ∈ v.mailbox.folders) E := by
  obtain ⟨n, hn⟩ := b.runIn_write bodies s hf
  exact .of_ok hn ((Memory.mem_after_of_edits fun _ => Batch.edits_calls).mpr hf)

/-- Edits that follow a batch. -/
theorem ensures_edits {calls : List Call} (h : ∀ c ∈ calls, c.Edits folder)
    (hf : folder ∈ w.mailbox.folders) :
    Ensures (calls.forM fun c => discard (Operation.ask c)) s w
      (fun _ v => folder ∈ v.mailbox.folders) E := by
  have hr := Operation.runIn_forM_ask (fun c hc => (h c hc).isWrite) s
    (Memory.accepts_of_edits h hf)
  exact .of_ok hr ((Memory.mem_after_of_edits h).mpr hf)

theorem ensures_announce (ms : List Message) :
    Ensures (announce folder ms) s w (fun _ _ => True) E := by
  induction ms generalizing w with
  | nil => exact .pure trivial
  | cons m ms ih =>
    rw [announce, List.forM_eq_forM, List.forM_cons]
    exact .bind_ok (Operation.runIn_tell ..) ih

/-- Downloads never fail the operation that they are part of. -/
theorem ensures_completeAll (sess : Session) (stats : Stats) :
    Ensures (completeAll sess folder stats) s w (fun _ _ => True) E := by
  unfold completeAll
  refine .bind_ok (Operation.runIn_ofProgram ..) ?_
  split
  · exact .pure trivial
  · exact .pure trivial
  · refine .bind_ok (Operation.runIn_ofProgram ..) ?_
    split <;> exact .pure trivial

theorem ensures_finish (sess : Session) (c : Collected) (n : Nat) :
    Ensures (finish sess folder c n) s w (fun _ _ => True) E := by
  refine .bind (ensures_announce _) fun _ v _ => ?_
  refine .bind (ensures_completeAll sess _) fun stats v _ => ?_
  exact .bind_ok (Operation.runIn_ask_read rfl s v) (.pure trivial)

end

theorem syncFolder_eq (sess : Session) (folder : String) :
    syncFolder sess folder = Operation.withLock (Locks.ofFolder folder) (do
      let c ← pass sess folder .changes
      let flagsChanged ← land folder c
      finish sess folder c flagsChanged) := by
  simp only [syncFolder, land, finish, bind_assoc, pure_bind]

end MailSync.Collection
