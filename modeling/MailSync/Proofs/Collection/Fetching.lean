import MailSync.Proofs.Collection.Meaning
import MailSync.Proofs.Collection.Telling

/-!
# What a fetch leaves in its folder

Once a pass has ended well its changes are written in the order of the accepted replies, whether
they are about the messages that were asked for or about others. A fetch then takes out those of
the messages asked for that the server no longer has. Of the messages that are left each is what the
changes made of it.
-/
namespace MailSync.Collection
open Mailbox (Call Memory)
open Operation (Ensures)

variable {s : Surroundings Memory} {sess : Session} {folder : String} {w v : World Memory}

/-- What was accepted since a world has been written to the folder as a batch, and then some ids
were taken out. -/
structure Landed (folder : String) (bodies : Bodies) (b : Batch) (gone : List String)
    (w v : World Memory) : Prop where
  history : w.history <+: v.history
  batch : b = batchOf folder (standing folder w v)
  message? : ∀ id, v.mailbox.message? folder id = if id ∈ gone then none else
    b.deltas.foldl (Delta.onMessage bodies id)
      (if b.reset then none else w.mailbox.message? folder id)

section
variable {bodies : Bodies} {b : Batch} {gone : List String}

theorem Landed.deltas (h : Landed folder bodies b gone w v) :
    b.deltas = (standing folder w v).gathered (changes folder) := congrArg Batch.deltas h.batch

/-- Locks do not count. -/
theorem Landed.locks {l l' : Locks} (h : Landed folder bodies b gone { w with locks := l } v) :
    Landed folder bodies b gone w { v with locks := l' } := ⟨h.history, h.batch, h.message?⟩

end

/-- Calls that take these messages out of a folder, and do nothing else to it. -/
structure TakesOut (folder : String) (gone : List String) (calls : List Call) : Prop where
  edits : ∀ c ∈ calls, c.Edits folder
  message? : ∀ m id, (Memory.after m calls).message? folder id =
    if id ∈ gone then none else m.message? folder id

theorem takesOut_takenOut (folder : String) (gone : List String) :
    TakesOut folder gone (takenOut folder gone) where
  edits _ := edits_takenOut
  message? m := message?_after_takenOut m folder gone

theorem takesOut_destroy (folder : String) (gone : List String) :
    TakesOut folder gone [.destroyMessages folder gone] where
  edits _ hc := List.mem_singleton.mp hc ▸ .destroy gone
  message? m := m.message?_next_destroy folder gone

theorem standing_written (w v : World Memory) (calls : List Call) :
    standing folder w (v.written calls) = standing folder w v := by
  rw [standing, World.since, World.exchanges_written]
  rfl

/-- Where a pass ended, to write what it collected is to land it. -/
theorem Tracks.landed {p : Progress} (h : Tracks sess folder w p v)
    (hf : folder ∈ v.mailbox.folders) (bodies : Bodies) {gone : List String} {calls : List Call}
    (hcalls : TakesOut folder gone calls) (rounds : Nat) :
    folder ∈ ((v.written (p.batch.calls folder bodies)).written calls).mailbox.folders ∧
    Landed folder bodies p.batch gone w (((v.written (p.batch.calls folder bodies)).written
      calls).written (Collected.keyCalls folder ⟨p.batch, p.stored, p.key, rounds⟩)) := by
  have hbatch : folder ∈ (v.written (p.batch.calls folder bodies)).mailbox.folders :=
    (Memory.mem_after_of_edits fun _ => Batch.edits_calls).mpr hf
  have hgone : folder ∈ ((v.written (p.batch.calls folder bodies)).written calls).mailbox.folders :=
    (Memory.mem_after_of_edits hcalls.edits).mpr hbatch
  refine ⟨hgone, ?_, ?_, fun id => ?_⟩
  · exact h.history.trans ((List.prefix_append ..).trans
      ((List.prefix_append ..).trans (List.prefix_append ..)))
  · rw [standing_written, standing_written, standing_written]
    exact h.batchOf
  · have hv : v.mailbox.message? folder id = w.mailbox.message? folder id := by
      rw [Memory.message?_eq, h.contents, Memory.message?_eq]
    refine (message?_keyCalls hgone _ id).trans ?_
    refine (hcalls.message? _ id).trans ?_
    rw [World.written, message?_after_calls hf, hv]

/-- What a fetch reports: the messages that came in full, the ids that were taken out because their
messages were cut short again or are not on the server, and those that failed. -/
structure Reports (b : Batch) (ids gone : List String) (r : Report) : Prop where
  downloaded : r.downloaded = b.completed
  discarded : r.discarded = b.rejected .whole ++ gone
  gone : ∀ id ∈ gone, id ∈ ids ∧ id ∉ b.completed.map (·.id)
  failed : (r.failed.map (·.1)).Sublist ids
  /-- No id is passed over. -/
  all : ∀ id ∈ ids, id ∈ r.downloaded.map (·.id) ∨ id ∈ r.discarded ∨ id ∈ r.failed.map (·.1)

/-- A fetch that ends well has landed its changes, and it fails only as its pass does. -/
theorem ensures_fetch_lands (hs : s.Solitary) {ids : List String}
    {E : SyncError → World Memory → Prop}
    (hE : Ensures (pass sess folder (.fetch ids)) s w (fun _ _ => True) E) :
    Ensures (fetch sess folder ids) s w
      (fun r v => ∃ b gone, Landed folder .whole b gone w v ∧ Reports b ids gone r) E := by
  rw [fetch_eq]
  refine ((ensures_pass_tracks hs sess folder w).failing hE).bind ?_
  rintro _ v ⟨hfw, p, rounds, rfl, ht, -⟩
  have hf := ht.mem_folders hfw
  obtain ⟨n, hn⟩ := p.batch.runIn_write .whole s hf
  obtain ⟨gone, failed, hsettle, hsettled⟩ := runIn_settle folder p.batch ids
    ⟨p.batch.completed, p.batch.rejected .whole, []⟩ s (v.written (p.batch.calls folder .whole))
  obtain ⟨hf', hlanded⟩ := ht.landed hf .whole (takesOut_takenOut folder gone) rounds
  refine .bind_ok (a := ()) (by rw [Operation.runIn_discard, hn]; rfl) (.bind_ok hsettle ?_)
  exact .bind_ok (runIn_commit hf' _) (.pure ⟨p.batch, gone, hlanded, rfl, rfl, hsettled.out,
    hsettled.sublist, hsettled.all⟩)

/-- What a report says about the one message asked for. -/
def Report.Says (r : Report) : DownloadOutcome → Prop
  | .alreadyComplete => False
  | .downloaded m => r.downloaded.getLast? = some m
  | .discarded => r.downloaded = [] ∧ r.discarded ≠ []

theorem ensures_outcome (r : Report) (id : String) (w : World Memory) :
    Ensures (r.outcome id) s w (fun o v => v = w ∧ r.Says o) fun _ v => v = w := by
  unfold Report.outcome
  split
  · rename_i m _ _ hm
    exact .pure ⟨rfl, hm⟩
  · rename_i _ _ _ hm hd
    exact .pure ⟨rfl, List.getLast?_eq_none_iff.mp hm, by rw [hd]; exact List.cons_ne_nil _ _⟩
  · exact .throw rfl
  · exact .throw rfl

/-- A download leaves all as it is, or it is a fetch under the lock of its folder. -/
theorem ensures_download_of_fetch {id : String} {Q : DownloadOutcome → World Memory → Prop}
    {E : SyncError → World Memory → Prop} (hno : ∀ e, E e w)
    (hdone : ∀ m, w.mailbox.message? folder id = some ⟨m, .complete⟩ → Q .alreadyComplete w)
    (hfetch : ∀ locks, Ensures (fetch sess folder [id]) s { w with locks }
      (fun r v => ∀ locks, (∀ o, r.Says o → Q o { v with locks }) ∧ ∀ e, E e { v with locks })
      fun e v => ∀ locks, E e { v with locks }) :
    Ensures (download sess folder id) s w Q E := by
  refine .withLock (hno _) fun locks hl => ?_
  have hback : { w with locks := locks.release (Locks.ofFolder folder) } = w := by
    rw [Locks.release_acquire hl]
  have hfail (e : SyncError) :
      E e { w with locks := locks.release (Locks.ofFolder folder) } := hback ▸ hno e
  refine .bind (.requireFolder (Q := fun _ v => { w with locks } = v) (fun _ => rfl)
    fun _ => hfail _) ?_
  rintro - _ rfl
  have hread : (Operation.ask (.message folder id)).runIn s { w with locks } =
      (.ok (w.mailbox.message? folder id), { w with locks }) := Operation.runIn_ask_read rfl s _
  refine .bind_ok hread ?_
  cases hx : w.mailbox.message? folder id with
  | none => exact .throw (hfail _)
  | some x =>
    simp only
    split_ifs with hcomplete
    · exact .pure (hback.symm ▸ hdone x.message (hx.trans (by rw [← hcomplete])))
    · refine .bind_ok (Mailbox.runIn_key folder) ?_
      split_ifs
      · exact .throw (hfail _)
      · refine ((hfetch locks).mono (fun _ _ h => h) fun _ v h => h _).bind fun r v hv => ?_
        refine (ensures_outcome r id v).mono ?_ ?_
        · rintro o _ ⟨rfl, ho⟩
          exact (hv _).1 o ho
        · rintro e _ rfl
          exact (hv _).2 e

end MailSync.Collection
