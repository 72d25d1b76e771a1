import MailSync.Proofs.Collection.Bodies

/-!
# Messages that a sync leaves cut short

After the changes are written a sync fetches what is cut short. The fetch may fail as a whole, begin
again, and bring messages that nobody asked for; it never leaves another message cut short. So a
message that still is one at the end was one before the fetch, nothing that came settled it, and it
is among the failures.
-/
namespace MailSync.Mailbox.Memory

/-- The download state of a message, if it is stored. -/
def state? (m : Memory) (folder id : String) : Option DownloadState :=
  (m.message? folder id).map (·.state)

/-- The ids of the messages of a folder that are cut short. -/
def truncatedIds (m : Memory) (folder : String) : List String :=
  (m.folders[folder]?.map Folder.truncatedIds).getD []

theorem mem_truncatedIds {m : Memory} {folder id : String} :
    id ∈ m.truncatedIds folder ↔ m.state? folder id = some .truncated := by
  rw [truncatedIds, state?, message?]
  cases m.folders[folder]? with
  | none => simp
  | some f =>
    simp only [Option.map_some, Option.getD_some, Option.bind_some, Folder.truncatedIds,
      List.mem_map, List.mem_filter, decide_eq_true_eq, Prod.exists,
      Std.ExtTreeMap.mem_toList_iff_getElem?_eq_some, Option.map_eq_some_iff]
    constructor
    · rintro ⟨_, x, ⟨hx, hstate⟩, rfl⟩
      exact ⟨x, hx, hstate⟩
    · rintro ⟨x, hx, hstate⟩
      exact ⟨id, x, ⟨hx, hstate⟩, rfl⟩

theorem nodup_truncatedIds (m : Memory) (folder : String) : (m.truncatedIds folder).Nodup := by
  rw [truncatedIds]
  cases m.folders[folder]? with
  | none => exact List.nodup_nil
  | some f =>
    have hkeys : (f.messages.toList.map (·.1)).Nodup := by
      rw [Std.ExtTreeMap.map_fst_toList_eq_keys]
      exact Std.ExtTreeMap.nodup_keys
    exact (List.filter_sublist.map _).nodup hkeys

end MailSync.Mailbox.Memory

namespace MailSync.Collection
open Mailbox (Memory)
open Operation (Ensures)

variable {s : Surroundings Memory} {sess : Session} {folder : String} {w v u : World Memory}

theorem runIn_truncatedIds (folder : String) (s : Surroundings Memory) (w : World Memory) :
    (Operation.ask (.truncatedIds folder)).runIn s w = (.ok (w.mailbox.truncatedIds folder), w) :=
  Operation.runIn_ask_read rfl s w

/-! ### Along changes -/

/-- Where whole bodies are asked for, a change leaves a message cut short only if it was that
before; what is added under its id stores it in full or takes it out. -/
theorem Delta.truncated_onMessage {id : String} {x : Option StoredMessage} {d : Delta}
    (h : (d.onMessage .whole id x).map (·.state) = some .truncated) :
    x.map (·.state) = some .truncated ∧ ∀ m, d = .add m → m.id ≠ id := by
  cases d with
  | add m =>
    simp only [onMessage] at h
    split_ifs at h with hid hrejects
    · cases h
    · -- Not rejected, so not cut short.
      have hwhole : m.truncated = false := by simpa [Bodies.rejects] using hrejects
      rw [Message.downloadState, hwhole] at h
      cases h
    · refine ⟨h, ?_⟩
      rintro _ ⟨⟩
      exact hid
  | flag i which state =>
    refine ⟨?_, fun _ he => Delta.noConfusion he⟩
    simp only [onMessage] at h
    split_ifs at h with hid
    · rw [Option.map_map] at h
      exact h
    · exact h
  | delete i =>
    refine ⟨?_, fun _ he => Delta.noConfusion he⟩
    simp only [onMessage] at h
    split_ifs at h
    · cases h
    · exact h

theorem truncated_foldl_onMessage {id : String} {ds : List Delta} {x : Option StoredMessage}
    (h : (ds.foldl (Delta.onMessage .whole id) x).map (·.state) = some .truncated) :
    x.map (·.state) = some .truncated ∧ ∀ m, .add m ∈ ds → m.id ≠ id := by
  induction ds generalizing x with
  | nil => exact ⟨h, fun _ hm => absurd hm List.not_mem_nil⟩
  | cons d ds ih =>
    obtain ⟨hd, hds⟩ := ih h
    obtain ⟨hx, hadd⟩ := d.truncated_onMessage hd
    refine ⟨hx, fun m hm => ?_⟩
    rcases List.mem_cons.mp hm with rfl | hm
    · exact hadd m rfl
    · exact hds m hm

/-! ### The account of a fetch -/

/-- Ids that account for what is cut short in a folder: they were cut short in an earlier mailbox,
and whatever still is belongs to them. -/
structure Accounts (folder : String) (failed : List String) (m m' : Memory) : Prop where
  nodup : failed.Nodup
  known : ∀ id ∈ failed, m.state? folder id = some .truncated
  left : ∀ id, m'.state? folder id = some .truncated → id ∈ failed

/-- All that was cut short accounts for it, as long as nothing else is. -/
theorem accounts_truncatedIds {m m' : Memory}
    (h : ∀ id, m'.state? folder id = some .truncated → m.state? folder id = some .truncated) :
    Accounts folder (m.truncatedIds folder) m m' where
  nodup := m.nodup_truncatedIds folder
  known _ hid := Memory.mem_truncatedIds.mp hid
  left id hid := Memory.mem_truncatedIds.mpr (h id hid)

/-- What is cut short once a fetch was landed was cut short before, and nothing came for it. -/
theorem Landed.truncated {b : Batch} {gone : List String} (h : Landed folder .whole b gone w v)
    {id : String} (hid : v.mailbox.state? folder id = some .truncated) :
    w.mailbox.state? folder id = some .truncated ∧ id ∉ gone ∧ ∀ m ∈ b.added, m.id ≠ id := by
  rw [Memory.state?, h.message?] at hid
  split_ifs at hid with hgone hreset
  · cases hid
  · cases (truncated_foldl_onMessage hid).1
  · obtain ⟨hstate, hadded⟩ := truncated_foldl_onMessage hid
    exact ⟨hstate, hgone, fun m hm => hadded m (Batch.mem_added.mp hm)⟩

/-- A fetch of all that is cut short accounts for what is left by its failures. -/
theorem Landed.accounts {b : Batch} {gone : List String} {r : Report}
    (h : Landed folder .whole b gone w v)
    (hr : Reports b (w.mailbox.truncatedIds folder) gone r) :
    Accounts folder (r.failed.map (·.1)) w.mailbox v.mailbox where
  nodup := hr.failed.nodup (w.mailbox.nodup_truncatedIds folder)
  known _ hid := Memory.mem_truncatedIds.mp (hr.failed.subset hid)
  left id hid := by
    obtain ⟨hstate, hgone, hadded⟩ := h.truncated hid
    have hnone {ms : List Message} (hms : ∀ m ∈ ms, m ∈ b.added) : id ∉ ms.map (·.id) := by
      intro hmem
      obtain ⟨m, hm, he⟩ := List.mem_map.mp hmem
      exact hadded m (hms m hm) he
    rcases hr.all id (Memory.mem_truncatedIds.mpr hstate) with hcame | hout | hfailed
    · rw [hr.downloaded] at hcame
      exact absurd hcame (hnone fun _ => List.mem_of_mem_filter)
    · rw [hr.discarded] at hout
      rcases List.mem_append.mp hout with hout | hout
      · exact absurd hout (hnone fun _ => List.mem_of_mem_filter)
      · exact absurd hout hgone
    · exact hfailed

/-! ### The downloads of a sync -/

theorem ensures_complete_accounts (hs : s.Solitary) (sess : Session)
    (hf : folder ∈ w.mailbox.folders) :
    Ensures (complete sess folder (w.mailbox.truncatedIds folder)) s w
      (fun r v => Accounts folder (r.failed.map (·.1)) w.mailbox v.mailbox)
      fun _ v => Accounts folder (w.mailbox.truncatedIds folder) w.mailbox v.mailbox := by
  have hpass : Ensures (pass sess folder (.fetch (w.mailbox.truncatedIds folder))) s w
      (fun _ _ => True)
      fun _ v => Accounts folder (w.mailbox.truncatedIds folder) w.mailbox v.mailbox := by
    refine (ensures_pass hs w).mono (fun _ _ _ => trivial) fun e v hfailed => ?_
    refine accounts_truncatedIds fun id hid => ?_
    obtain ⟨y, hy, hstate⟩ := Option.map_eq_some_iff.mp hid
    exact Option.map_eq_some_iff.mpr ⟨y, message?_of_failed hs hf hfailed hy, hstate⟩
  refine (ensures_fetch_lands hs hpass).bind ?_
  rintro r v ⟨b, gone, hlanded, hreports⟩
  exact .bind_ok (runIn_announce ..) (.pure (hlanded.accounts hreports))

/-- The downloads add as many failures as there are ids to account for what is left. -/
theorem ensures_completeAll_accounts (hs : s.Solitary) (hf : folder ∈ w.mailbox.folders)
    (stats : Stats) :
    Ensures (completeAll sess folder stats) s w
      (fun stats' v => ∃ failed, Accounts folder failed w.mailbox v.mailbox ∧
        stats'.failures = stats.failures + failed.length) fun _ _ => False := by
  have hcomplete := (ensures_complete_accounts hs sess hf).attempt (E := fun _ _ => False)
  have hself : Accounts folder (w.mailbox.truncatedIds folder) w.mailbox w.mailbox :=
    accounts_truncatedIds fun _ h => h
  have hask := Operation.runIn_ofProgram (Operation.ask (.truncatedIds folder)).run s w
  have hread : (Operation.ask (.truncatedIds folder)).run.run s w =
      (.ok (w.mailbox.truncatedIds folder), w) := runIn_truncatedIds folder s w
  rw [hread] at hask
  refine .bind_ok hask ?_
  generalize w.mailbox.truncatedIds folder = ids at hcomplete hself
  cases ids with
  | nil => exact .pure ⟨[], hself, rfl⟩
  | cons id ids =>
    refine hcomplete.bind fun r v hr => ?_
    cases r with
    | ok report => exact .pure ⟨_, hr, by rw [List.length_map]; rfl⟩
    | error e => exact .pure ⟨_, hr, rfl⟩

theorem ensures_finish_accounts (hs : s.Solitary) (hf : folder ∈ w.mailbox.folders)
    (c : Collected) (n : Nat) :
    Ensures (finish sess folder c n) s w
      (fun stats v => stats.truncated = (v.mailbox.truncatedIds folder).length ∧
        ∃ failed, Accounts folder failed w.mailbox v.mailbox ∧ stats.failures = failed.length)
      fun _ _ => False := by
  obtain ⟨w', hannounce, hmailbox⟩ : ∃ w', (announce folder c.batch.completed).runIn s w =
      (.ok (), w') ∧ w'.mailbox = w.mailbox := ⟨_, runIn_announce .., rfl⟩
  rw [← hmailbox] at hf ⊢
  refine .bind_ok hannounce ((ensures_completeAll_accounts hs hf _).bind ?_)
  rintro stats v ⟨failed, haccounts, hfailures⟩
  refine .bind_ok (runIn_truncatedIds folder s v) (.pure ⟨rfl, failed, haccounts, ?_⟩)
  exact hfailures.trans (Nat.zero_add _)

/-- A sync that ends well reports as cut short as many messages as the folder holds that are, and
they are no more than the failures it reports. For each failure there is a message that was cut
short when the changes and their key had just been written, and each message that was is by the end
there in full, gone, or among the failures. -/
theorem leftovers_are_failures (hs : s.Solitary) (sess : Session) {stats : Stats}
    (h : (syncFolder sess folder).runIn s w = (.ok stats, v)) :
    ∃ locks c x n u, ∃ left failed : List String,
      w.locks.acquire? (Locks.ofFolder folder) = some locks ∧
      (pass sess folder .changes).runIn s { w with locks } = (.ok c, x) ∧
      (land folder c).runIn s x = (.ok n, u) ∧
      (left.Nodup ∧ stats.truncated = left.length ∧
        ∀ id, id ∈ left ↔ v.mailbox.state? folder id = some .truncated) ∧
      (failed.Nodup ∧ stats.failures = failed.length ∧
        ∀ id ∈ failed, u.mailbox.state? folder id = some .truncated) ∧
      (∀ id, u.mailbox.state? folder id = some .truncated →
        v.mailbox.state? folder id = some .complete ∨ v.mailbox.state? folder id = none ∨
          id ∈ failed) ∧
      left ⊆ failed ∧ stats.truncated ≤ stats.failures := by
  have hensures : Ensures (syncFolder sess folder) s w
      (fun stats v => ∃ locks c x n u,
        w.locks.acquire? (Locks.ofFolder folder) = some locks ∧
        (pass sess folder .changes).runIn s { w with locks } = (.ok c, x) ∧
        (land folder c).runIn s x = (.ok n, u) ∧
        stats.truncated = (v.mailbox.truncatedIds folder).length ∧
        ∃ failed, Accounts folder failed u.mailbox v.mailbox ∧ stats.failures = failed.length)
      fun _ _ => True := by
    rw [syncFolder_eq]
    refine .withLock trivial fun locks hl => ?_
    refine .bind ((ensures_pass hs _).running.mono (fun _ _ h => h) fun _ _ _ => trivial) ?_
    rintro c x ⟨⟨-, hf⟩, hpass⟩
    have hwritten : folder ∈ (x.written (c.batch.calls folder .any)).mailbox.folders :=
      (Memory.mem_after_of_edits fun _ => Batch.edits_calls).mpr hf
    obtain ⟨n, hn⟩ := runIn_land (s := s) hf c
    refine .bind_ok hn (.mono (ensures_finish_accounts hs (mem_after_keyCalls hwritten c) c n) ?_
      fun _ _ h => h.elim)
    rintro stats v ⟨htruncated, haccounts⟩
    exact ⟨locks, c, x, n, _, hl, hpass, hn, htruncated, haccounts⟩
  obtain ⟨locks, c, x, n, u, hl, hpass, hn, htruncated, failed, haccounts, hfailures⟩ :=
    hensures.ok h
  have hsubset : v.mailbox.truncatedIds folder ⊆ failed := fun id hid =>
    haccounts.left id (Memory.mem_truncatedIds.mp hid)
  refine ⟨locks, c, x, n, u, v.mailbox.truncatedIds folder, failed, hl, hpass, hn,
    ⟨v.mailbox.nodup_truncatedIds folder, htruncated, fun _ => Memory.mem_truncatedIds⟩,
    ⟨haccounts.nodup, hfailures, haccounts.known⟩, fun id hid => ?_, hsubset, ?_⟩
  · cases hstate : v.mailbox.state? folder id with
    | none => exact .inr (.inl rfl)
    | some state =>
      cases state with
      | complete => exact .inl rfl
      | truncated => exact .inr (.inr (haccounts.left id hstate))
  · rw [htruncated, hfailures]
    exact (v.mailbox.nodup_truncatedIds folder).length_le_of_subset hsubset

/-- A server that cuts three messages short, and then delivers one of them in full, no longer has
another and refuses the third. -/
def trickling : Script Memory where
  replies := [⟨1, some "4", false, [], []⟩,
      ⟨1, some "5", false, ["5:1", "5:2", "5:3"].map fun id =>
        .add { Message.blank id with mime := some [0x41], truncated := true }, []⟩,
      ⟨1, some "6", false, [.add (.blank "5:1")],
        [⟨"5:1", .fetch, 1⟩, ⟨"5:2", .fetch, 8⟩, ⟨"5:3", .fetch, 6⟩]⟩].map
    fun r : Response => r.reply "5"
  meanwhile := []
  id := ""

theorem trickling_leaves_failure : trickling.surroundings.Solitary ∧
    ∃ v, ∃ left failed : List String,
      (syncFolder .sample "5").runIn trickling.surroundings .inbox =
        (.ok ⟨2, 3, 0, 0, 1, 1, 1, 1, true⟩, v) ∧
      left.length = 1 ∧ (∀ id ∈ left, v.mailbox.state? "5" id = some .truncated) ∧
      failed.length = 1 ∧ left ⊆ failed := by
  have hs : trickling.surroundings.Solitary := Script.solitary_surroundings fun _ h => nomatch h
  have hstats : ((syncFolder .sample "5").runIn trickling.surroundings .inbox).1 =
      .ok ⟨2, 3, 0, 0, 1, 1, 1, 1, true⟩ := by decide +kernel
  generalize hrun : (syncFolder .sample "5").runIn trickling.surroundings .inbox = run at hstats ⊢
  obtain ⟨result, v⟩ := run
  obtain rfl : result = .ok ⟨2, 3, 0, 0, 1, 1, 1, 1, true⟩ := hstats
  obtain ⟨locks, c, x, n, u, left, failed, -, -, -, ⟨-, hleft, hmem⟩, ⟨-, hfailed, -⟩, -, hsub,
    -⟩ := leftovers_are_failures hs .sample hrun
  exact ⟨hs, v, left, failed, rfl, hleft.symm, fun id hid => (hmem id).mp hid, hfailed.symm, hsub⟩

end MailSync.Collection
