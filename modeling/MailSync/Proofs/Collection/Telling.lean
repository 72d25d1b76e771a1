import MailSync.Proofs.Atomicity
import MailSync.Proofs.Collection.Effects
import MailSync.Proofs.Notices
import MailSync.Proofs.Stretches

/-!
# What a sync tells the listener

A message that the listener is told of was brought in full by a pass that the sync runs, and the
mailbox holds what the later changes of that pass made of it. If none of these names the message it
is stored as it was told. If one does, it may have been taken out again, cut short or flagged by
then: the listener is told only after all changes are written, of every message that came in full at
any point.
-/
namespace MailSync
open Mailbox (Call Memory keyMark)
open Operation (Ensures Only)

variable {s : Surroundings Memory} {sess : Session} {folder : String}

namespace Mailbox.Memory

theorem message?_setFolderExtra (m : Memory) {folder : String} (hf : folder ∈ m.folders)
    (key : String) (value : Option String) (id : String) :
    (m.next (.setFolderExtra folder key value)).message? folder id = m.message? folder id := by
  obtain ⟨k, hk⟩ := contents_of_mem hf
  rw [message?_eq, contents_setFolderExtra hk, message?_eq, hk]
  rfl

end Mailbox.Memory

namespace Collection

/-- What a change makes of the message with an id. -/
def Delta.onMessage (bodies : Bodies) (id : String) (x : Option StoredMessage) :
    Delta → Option StoredMessage
  | .add m =>
    if m.id = id then if bodies.rejects m then none else some ⟨m, m.downloadState⟩ else x
  | .flag i which state => if i = id then x.map (.mapFlags (·.set state which)) else x
  | .delete i => if i = id then none else x

/-- The message that a change is about. -/
def Delta.id : Delta → String
  | .add m => m.id
  | .flag id _ _ => id
  | .delete id => id

theorem Delta.onMessage_of_ne {d : Delta} {id : String} (h : d.id ≠ id) (bodies : Bodies)
    (x : Option StoredMessage) : d.onMessage bodies id x = x := by
  cases d <;> exact if_neg h

/-- A message that comes in full is stored, whatever was there. -/
theorem Delta.onMessage_add {m : Message} (h : m.truncated = false) (bodies : Bodies)
    (x : Option StoredMessage) :
    (Delta.add m).onMessage bodies m.id x = some ⟨m, .complete⟩ := by
  rw [onMessage, if_pos rfl, Bodies.rejects, h, Bool.and_false, Message.downloadState, h]
  rfl

theorem Delta.editOf_call (folder : String) (bodies : Bodies) (id : String) (d : Delta)
    (x : Option StoredMessage) : (d.call folder bodies).editOf id x = d.onMessage bodies id x := by
  cases d with
  | add m =>
    simp only [call, onMessage]
    cases bodies.rejects m with
    | true => simp only [if_true, Call.editOf, List.mem_singleton, eq_comm]
    | false => rfl
  | flag i which state => rfl
  | delete i => simp only [call, onMessage, Call.editOf, List.mem_singleton, eq_comm]

/-- A batch that is written changes each message by itself. -/
theorem message?_after_calls {m : Memory} (hf : folder ∈ m.folders) (bodies : Bodies) (b : Batch)
    (id : String) :
    (m.after (b.calls folder bodies)).message? folder id =
      b.deltas.foldl (Delta.onMessage bodies id)
        (if b.reset then none else m.message? folder id) := by
  rw [Memory.message?_after_of_mem (fun _ => Batch.edits_calls) hf, Batch.calls,
    List.foldl_append, List.foldl_map]
  simp only [Delta.editOf_call]
  split_ifs <;> rfl

theorem Batch.mem_added {b : Batch} {m : Message} : m ∈ b.added ↔ .add m ∈ b.deltas := by
  refine List.mem_filterMap.trans ⟨fun ⟨d, hd, hm⟩ => ?_, fun h => ⟨_, h, rfl⟩⟩
  cases d with
  | add m' => exact Option.some.inj hm ▸ hd
  | flag id which state => cases hm
  | delete id => cases hm

/-- A mailbox backs a report of a message: in its run from a world the sync runs a pass that brings
the message in full, and the mailbox holds what the later changes of that pass make of it. -/
def Backs (s : Surroundings Memory) (sess : Session) (folder : String) (w : World Memory)
    (mailbox : Memory) (m : Message) : Prop :=
  ∃ errand bodies v u c before after,
    (errand = .changes ∧ bodies = .any ∨ ∃ ids, errand = .fetch ids ∧ bodies = .whole) ∧
    (sync sess folder).Undergoes s w (pass sess folder errand) v (.ok c) u ∧
    c.batch.deltas = before ++ .add m :: after ∧ m.truncated = false ∧
    mailbox.message? folder m.id =
      after.foldl (Delta.onMessage bodies m.id) (some ⟨m, .complete⟩)

/-- What a pass brought in full is backed by the mailbox once the pass is written, as long as its
messages stay what they are. -/
theorem backs_of_written {w v u : World Memory} {errand : Errand} {bodies : Bodies} {c : Collected}
    (he : errand = .changes ∧ bodies = .any ∨ ∃ ids, errand = .fetch ids ∧ bodies = .whole)
    (hrun : (sync sess folder).Undergoes s w (pass sess folder errand) v (.ok c) u)
    (hf : folder ∈ u.mailbox.folders) {m : Message} (hm : m ∈ c.batch.completed) {mailbox : Memory}
    (hmailbox : mailbox.message? folder m.id =
      (u.mailbox.after (c.batch.calls folder bodies)).message? folder m.id) :
    Backs s sess folder w mailbox m := by
  obtain ⟨hadded, hwhole⟩ := List.mem_filter.mp hm
  replace hwhole : m.truncated = false := by simpa using hwhole
  obtain ⟨before, after, hdeltas⟩ := List.append_of_mem (Batch.mem_added.mp hadded)
  refine ⟨errand, bodies, v, u, c, before, after, he, hrun, hdeltas, hwhole, ?_⟩
  rw [hmailbox, message?_after_calls hf, hdeltas, List.foldl_append, List.foldl_cons,
    Delta.onMessage_add hwhole]

theorem message?_keyCalls {w : World Memory} (hf : folder ∈ w.mailbox.folders) (c : Collected)
    (id : String) :
    (w.written (c.keyCalls folder)).mailbox.message? folder id = w.mailbox.message? folder id := by
  unfold Collected.keyCalls
  split_ifs
  · exact Memory.message?_setFolderExtra _ hf ..
  · rw [World.written_nil]

/-- A report to the listener is about the folder that is synced, and the mailbox backs it. -/
def Reliable (s : Surroundings Memory) (sess : Session) (folder : String) (w : World Memory)
    (moment : Moment Memory) : Prop :=
  ∀ f m, moment.event = .told (.downloaded f m) →
    f = folder ∧ Backs s sess folder w moment.mailbox m

/-- All reports since a world are reliable. -/
def Faithful (s : Surroundings Memory) (sess : Session) (folder : String) (w v : World Memory) :
    Prop := w.Adds (Reliable s sess folder w) v

theorem Faithful.silent {w v u : World Memory} (h : Faithful s sess folder w v)
    (hu : v.Adds Moment.Silent u) : Faithful s sess folder w u :=
  World.Adds.trans h (hu.mono fun _ hm _ _ he => absurd he (hm _))

theorem Faithful.locks {w v : World Memory} (h : Faithful s sess folder w v) (locks : Locks) :
    Faithful s sess folder w { v with locks } := h.silent (.of_eq rfl)

section
variable {w v : World Memory} {E : SyncError → World Memory → Prop}

theorem runIn_announce (s : Surroundings Memory) (folder : String) (ms : List Message)
    (w : World Memory) : (announce folder ms).runIn s w = (.ok (), { w with
      history := w.history ++ ms.map fun m => ⟨.told (.downloaded folder m), w.mailbox⟩ }) := by
  induction ms generalizing w with
  | nil => rw [List.map_nil, List.append_nil]; rfl
  | cons m ms ih =>
    rw [announce, List.forM_eq_forM, List.forM_cons,
      Operation.runIn_bind_ok (Operation.runIn_tell ..)]
    refine (ih _).trans ?_
    simp only [World.record, List.append_assoc, List.singleton_append, List.map_cons]

theorem ensures_announce_faithful {ms : List Message} (hw : Faithful s sess folder w v)
    (h : ∀ m ∈ ms, Backs s sess folder w v.mailbox m) :
    Ensures (announce folder ms) s v (fun _ u => Faithful s sess folder w u) E := by
  refine .of_ok (runIn_announce ..) (World.Adds.trans hw ⟨_, rfl, fun moment hm f m he => ?_⟩)
  obtain ⟨m', hm', rfl⟩ := List.mem_map.mp hm
  obtain ⟨rfl, rfl⟩ := Notice.downloaded.inj (Event.told.inj he)
  exact ⟨rfl, h m' hm'⟩

/-- A pass tells nothing, and the folder is there at its end. -/
theorem ensures_pass_silent (hs : s.Solitary) (errand : Errand) (w : World Memory) :
    Ensures (pass sess folder errand) s w
      (fun c v => w.Adds Moment.Silent v ∧ folder ∈ v.mailbox.folders ∧
        (pass sess folder errand).runIn s w = (.ok c, v)) fun _ v => w.Adds Moment.Silent v := by
  have honly : Only (fun e => ∀ notice, e ≠ .tell notice) (pass sess folder errand) :=
    only_pass (by simp) (by simp) (by simp) (by simp) (by simp) (by simp)
  have hadds := honly.adds_silent hs w
  have hpass := ((ensures_pass hs w).and_always hadds).running
  refine hpass.mono (fun c v ⟨⟨⟨_, hf⟩, hsilent⟩, hrun⟩ => ?_) fun _ _ h => h.2
  exact ⟨hsilent, hf, hrun⟩

/-- To settle what did not come takes out no message that came. -/
theorem ensures_settle (hf : folder ∈ w.mailbox.folders) (b : Batch) (ids : List String)
    (r : Report) :
    Ensures (settle folder b ids r) s w
      (fun r' v => r'.downloaded = r.downloaded ∧ w.Adds Moment.Silent v ∧
        folder ∈ v.mailbox.folders ∧
        ∀ m ∈ r.downloaded, v.mailbox.message? folder m.id = w.mailbox.message? folder m.id) E := by
  obtain ⟨gone, failed, hrun, hsettled⟩ := runIn_settle folder b ids r s w
  refine .of_ok hrun ⟨rfl, .written Moment.silent_wrote w _, ?_, fun m hm => ?_⟩
  · exact (Memory.mem_after_of_edits fun _ => edits_takenOut).mpr hf
  · refine (message?_after_takenOut _ folder gone m.id).trans (if_neg fun hmem => ?_)
    exact (hsettled.out m.id hmem).2 (List.mem_map_of_mem hm)

theorem ensures_fetch (hs : s.Solitary) (ids : List String)
    (hv : (sync sess folder).ComesTo s w (fetch sess folder ids) v) :
    Ensures (fetch sess folder ids) s v
      (fun r u => v.Adds Moment.Silent u ∧ ∀ m ∈ r.downloaded, Backs s sess folder w u.mailbox m)
      fun _ u => v.Adds Moment.Silent u := by
  refine (ensures_pass_silent hs (.fetch ids) v).bind fun c u ⟨hu, hf, hrun⟩ => ?_
  obtain ⟨n, hn⟩ := c.batch.runIn_write .whole s hf
  have hf' : folder ∈ (u.written (c.batch.calls folder .whole)).mailbox.folders :=
    (Memory.mem_after_of_edits fun _ => Batch.edits_calls).mpr hf
  refine .bind_ok (a := ()) (by rw [Operation.runIn_discard, hn]; rfl) ?_
  refine (ensures_settle hf' c.batch ids _).bind fun r x ⟨hr, hx, hfx, hm⟩ => ?_
  refine .bind_ok (runIn_commit hfx c) (.pure ⟨?_, fun m hmem => ?_⟩)
  · have hwritten := World.Adds.written Moment.silent_wrote
    exact hu.trans ((hwritten ..).trans (hx.trans (hwritten ..)))
  · rw [hr] at hmem
    exact backs_of_written (.inr ⟨ids, rfl, rfl⟩) (hv.first.undergoes hrun) hf hmem
      ((message?_keyCalls hfx c m.id).trans (hm m hmem))

theorem ensures_complete_faithful (hs : s.Solitary) (ids : List String)
    (hv : (sync sess folder).ComesTo s w (complete sess folder ids) v)
    (hw : Faithful s sess folder w v) :
    Ensures (complete sess folder ids) s v (fun _ u => Faithful s sess folder w u)
      fun _ u => Faithful s sess folder w u := by
  refine .bind (.mono (ensures_fetch hs ids hv.first) (fun _ _ h => h) fun _ _ => hw.silent) ?_
  intro r u ⟨hu, hback⟩
  exact (ensures_announce_faithful (hw.silent hu) hback).bind fun _ _ h => .pure h

/-- Wherever a sync stands, all reports since it began are reliable. -/
theorem ensures_completeAll_faithful (hs : s.Solitary) (stats : Stats)
    (hv : (sync sess folder).ComesTo s w (completeAll sess folder stats) v)
    (hw : Faithful s sess folder w v) :
    Ensures (completeAll sess folder stats) s v (fun _ u => Faithful s sess folder w u) E := by
  have hask : Ensures (Operation.ask (.truncatedIds folder)) s v (fun _ u => u = v)
      fun _ u => u = v := .of_ok (Operation.runIn_ask_read rfl s v) rfl
  unfold completeAll at hv ⊢
  refine hask.attempt.running.bind fun r v' ⟨hr, hrun⟩ => ?_
  have hnext := hv.second hrun
  obtain rfl : v' = v := by cases r <;> exact hr
  cases r with
  | error e => exact .pure hw
  | ok ids =>
    cases ids with
    | nil => exact .pure hw
    | cons id ids =>
      refine (ensures_complete_faithful hs _ hnext.first.attempt hw).attempt.bind fun r u hr => ?_
      cases r with
      | error e => exact .pure hr
      | ok report => exact .pure hr

theorem ensures_syncFolder_faithful (hs : s.Solitary)
    (hv : (sync sess folder).ComesTo s w (syncFolder sess folder) v)
    (hw : Faithful s sess folder w v) :
    Ensures (syncFolder sess folder) s v (fun _ u => Faithful s sess folder w u)
      fun _ u => Faithful s sess folder w u := by
  rw [syncFolder_eq] at hv ⊢
  refine .withLock hw fun locks hlocks => ?_
  replace hw := hw.locks locks
  replace hv := hv.withLock hlocks
  refine Ensures.mono (R := fun _ u => Faithful s sess folder w u)
    (F := fun _ u => Faithful s sess folder w u) ?_ (fun _ _ h => h.locks _) fun _ _ h => h.locks _
  refine ((ensures_pass_silent hs .changes _).mono (fun _ _ h => h) fun _ _ => hw.silent).bind
    fun c u ⟨hu, hf, hrun⟩ => ?_
  obtain ⟨n, hn⟩ := runIn_land (s := s) hf c
  refine .bind_ok hn ?_
  have hf' : folder ∈ (u.written (c.batch.calls folder .any)).mailbox.folders :=
    (Memory.mem_after_of_edits fun _ => Batch.edits_calls).mpr hf
  have hlanded := (hw.silent hu).silent
    ((World.Adds.written Moment.silent_wrote u (c.batch.calls folder .any)).trans
      (.written Moment.silent_wrote _ (c.keyCalls folder)))
  have hfinish := (hv.second hrun).second hn
  refine (ensures_announce_faithful hlanded fun m hm => ?_).running.bind fun _ x ⟨hx, hrunx⟩ => ?_
  · refine backs_of_written (.inl ⟨rfl, rfl⟩) (hv.first.undergoes hrun) hf hm ?_
    exact message?_keyCalls hf' c m.id
  · refine (ensures_completeAll_faithful hs _ (hfinish.second hrunx).first hx).bind ?_
    exact fun stats y hy => .bind_ok (Operation.runIn_ask_read rfl s y) (.pure hy)

end

theorem ensures_sync_faithful (hs : s.Solitary) (sess : Session) (folder : String)
    (w : World Memory) :
    Ensures (sync sess folder) s w (fun _ u => Faithful s sess folder w u)
      fun _ u => Faithful s sess folder w u := by
  have htell {v : World Memory} (hv : Faithful s sess folder w v) {notice : Notice}
      (hn : ∀ f m, notice ≠ .downloaded f m) : Faithful s sess folder w (v.record (.told notice)) :=
    World.Adds.trans hv (.record fun f m he => absurd (Event.told.inj he) (hn f m))
  have htold := Operation.runIn_tell (.started folder) s w
  refine .bind_ok htold ?_
  have hw : Faithful s sess folder w (w.record (.told (.started folder))) :=
    htell (.refl _ w) fun _ _ h => nomatch h
  have hv := ((Operation.ComesTo.start (sync sess folder) s w).second htold).first.attempt
  refine (ensures_syncFolder_faithful hs hv hw).attempt.bind fun r v hr => ?_
  cases r with
  | error e =>
    exact .bind_ok (Operation.runIn_tell ..) (.throw (htell hr fun _ _ h => nomatch h))
  | ok stats => exact .bind_ok (Operation.runIn_tell ..) (.pure (htell hr fun _ _ h => nomatch h))

/-- Of each message that a sync tells the listener to be stored in full: a pass that the sync runs
brought it in full, and at that moment the mailbox holds what the later changes of that pass made of
it. So if none of them names the message, it is stored in full as it was told. -/
theorem sync_tells (hs : s.Solitary) (sess : Session) (folder : String) (w : World Memory) :
    w.Adds (fun moment => ∀ f m, moment.event = .told (.downloaded f m) → f = folder ∧
      ∃ errand bodies v u c before after,
        (errand = .changes ∧ bodies = .any ∨ ∃ ids, errand = .fetch ids ∧ bodies = .whole) ∧
        (sync sess folder).Undergoes s w (pass sess folder errand) v (.ok c) u ∧
        c.batch.deltas = before ++ .add m :: after ∧ m.truncated = false ∧
        moment.mailbox.message? folder m.id =
          after.foldl (Delta.onMessage bodies m.id) (some ⟨m, .complete⟩) ∧
        ((∀ d ∈ after, d.id ≠ m.id) →
          moment.mailbox.message? folder m.id = some ⟨m, .complete⟩))
      ((sync sess folder).runIn s w).2 := by
  have hfaithful : Faithful s sess folder w ((sync sess folder).runIn s w).2 := by
    have h := ensures_sync_faithful hs sess folder w
    rcases hr : (sync sess folder).runIn s w with ⟨e | stats, v⟩
    · exact h.error hr
    · exact h.ok hr
  refine World.Adds.mono hfaithful fun moment hm f m he => ?_
  obtain ⟨rfl, errand, bodies, v, u, c, before, after, herrand, hrun, hdeltas, hwhole,
    hmessage⟩ := hm f m he
  refine ⟨rfl, errand, bodies, v, u, c, before, after, herrand, hrun, hdeltas, hwhole, hmessage,
    fun hne => hmessage.trans ?_⟩
  exact foldl_of_passing (fun d hd x => d.onMessage_of_ne (hne d hd) bodies x) _

/-- A server that brings a message and takes it back in one round. -/
def withdrawing : Script Memory where
  replies := [⟨1, some "1", false, [], []⟩,
      ⟨1, some "2", false, [.add (.blank "5:1"), .delete "5:1"], []⟩].map
    fun r : Response => r.reply "5"
  meanwhile := []
  id := ""

theorem withdrawing_solitary : withdrawing.surroundings.Solitary :=
  Script.solitary_surroundings fun _ h => nomatch h

theorem exists_withdrawn :
    ∃ moment ∈ ((sync .sample "5").runIn withdrawing.surroundings .inbox).2.history,
      moment.event = .told (.downloaded "5" (.blank "5:1")) ∧
        moment.mailbox.message? "5" "5:1" = none := by
  have h : ((sync .sample "5").runIn withdrawing.surroundings .inbox).2.history[9]?.map
      (fun moment => (moment.event, moment.mailbox.message? "5" "5:1")) =
        some (.told (.downloaded "5" (.blank "5:1")), none) := rfl
  obtain ⟨moment, hm, he⟩ := Option.map_eq_some_iff.mp h
  exact ⟨moment, List.mem_of_getElem? hm, (Prod.mk.inj he).1, (Prod.mk.inj he).2⟩

/-- The message that is told is gone by then, as the later changes want it. -/
theorem withdrawn_tells :
    withdrawing.surroundings.Solitary ∧
    ∃ moment ∈ ((sync .sample "5").runIn withdrawing.surroundings .inbox).2.history,
      moment.event = .told (.downloaded "5" (.blank "5:1")) ∧
        moment.mailbox.message? "5" "5:1" = none ∧
        ∃ (bodies : Bodies) (after : List Delta), moment.mailbox.message? "5" "5:1" =
          after.foldl (Delta.onMessage bodies "5:1") (some ⟨.blank "5:1", .complete⟩) := by
  obtain ⟨moment, hm, he, hn⟩ := exists_withdrawn
  obtain ⟨rest, hrest, htells⟩ := sync_tells withdrawing_solitary .sample "5" .inbox
  rw [hrest] at hm
  obtain ⟨-, errand, bodies, v, u, c, before, after, -, -, -, -, hmessage, -⟩ :=
    htells moment hm "5" _ he
  exact ⟨withdrawing_solitary, moment, hrest ▸ hm, he, hn, bodies, after, hmessage⟩

/-- Not all that the listener is told to be stored in full is stored. -/
theorem not_all_told_stored :
    ¬∀ (s : Surroundings Memory) (sess : Session) (folder : String) (w : World Memory), s.Solitary →
      w.Adds (fun moment => ∀ f m, moment.event = .told (.downloaded f m) →
        moment.mailbox.message? f m.id = some ⟨m, .complete⟩) ((sync sess folder).runIn s w).2 := by
  intro h
  obtain ⟨rest, hrest, htrue⟩ := h withdrawing.surroundings .sample "5" .inbox withdrawing_solitary
  obtain ⟨moment, hm, he, hn⟩ := exists_withdrawn
  rw [hrest] at hm
  cases hn.symm.trans (htrue moment hm "5" _ he)

end Collection
end MailSync
