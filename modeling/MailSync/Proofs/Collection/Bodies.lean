import MailSync.Proofs.Collection.Fetching

/-!
# Where bodies come from

A message that the server brings replaces the one stored under its id as a whole. So whatever a sync
or a download comes to, the body of each message stored afterwards is the one it had before, or that
of a message that a reply to one of the requests brought under the same id. A message that comes
without a body counts as one in full and takes the body that was there away.
-/
namespace MailSync
open Mailbox (Memory keyMark)
open Operation (Ensures)

variable {s : Surroundings Memory} {sess : Session} {folder : String} {w v u : World Memory}

namespace Collection

/-- A reply to a request for the content of a folder brings a message. -/
def Brings (folder : String) (x : Exchanged) (m : Message) : Prop :=
  x.1.command = "Sync" ∧ .add m ∈ changes folder x.2

/-! ### Along changes -/

theorem Delta.body_onMessage {bodies : Bodies} {id : String} {x : Option StoredMessage}
    {y : StoredMessage} {d : Delta} (h : d.onMessage bodies id x = some y) :
    (∃ z, x = some z ∧ z.message.mime = y.message.mime) ∨
      ∃ m, d = .add m ∧ m.id = id ∧ m.mime = y.message.mime := by
  cases d with
  | add m =>
    simp only [onMessage] at h
    split_ifs at h with hid
    · cases h
      exact .inr ⟨m, rfl, hid, rfl⟩
    · exact .inl ⟨y, h, rfl⟩
  | flag i which state =>
    simp only [onMessage] at h
    split_ifs at h
    · obtain ⟨z, rfl, rfl⟩ := Option.map_eq_some_iff.mp h
      exact .inl ⟨z, rfl, rfl⟩
    · exact .inl ⟨y, h, rfl⟩
  | delete i =>
    simp only [onMessage] at h
    split_ifs at h
    exact .inl ⟨y, h, rfl⟩

/-- A body comes through changes, or with one of them. -/
theorem body_foldl_onMessage {bodies : Bodies} {id : String} {ds : List Delta}
    {x : Option StoredMessage} {y : StoredMessage}
    (h : ds.foldl (Delta.onMessage bodies id) x = some y) :
    (∃ z, x = some z ∧ z.message.mime = y.message.mime) ∨
      ∃ m, .add m ∈ ds ∧ m.id = id ∧ m.mime = y.message.mime := by
  induction ds generalizing x with
  | nil => exact .inl ⟨y, h, rfl⟩
  | cons d ds ih =>
    rcases ih h with ⟨z, hz, hbody⟩ | ⟨m, hm, hid, hbody⟩
    · rcases Delta.body_onMessage hz with ⟨z', hx, hbody'⟩ | ⟨m, rfl, hid, hbody'⟩
      · exact .inl ⟨z', hx, hbody'.trans hbody⟩
      · exact .inr ⟨m, List.mem_cons_self, hid, hbody'.trans hbody⟩
    · exact .inr ⟨m, List.mem_cons_of_mem d hm, hid, hbody⟩

/-! ### Along a run -/

/-- Each body that is stored in a folder was there before, or came since then in a reply. -/
structure Traced (folder : String) (w v : World Memory) : Prop where
  history : w.history <+: v.history
  body : ∀ id y, v.mailbox.message? folder id = some y →
    (∃ x, w.mailbox.message? folder id = some x ∧ x.message.mime = y.message.mime) ∨
      ∃ x ∈ w.since v, ∃ m, Brings folder x m ∧ m.id = id ∧ m.mime = y.message.mime

namespace Traced

/-- What is stored in the end was stored before. -/
theorem of_stored (hh : w.history <+: v.history)
    (h : ∀ id y, v.mailbox.message? folder id = some y → w.mailbox.message? folder id = some y) :
    Traced folder w v := ⟨hh, fun id y hy => .inl ⟨y, h id y hy, rfl⟩⟩

theorem of_mailbox (hh : w.history <+: v.history) (h : v.mailbox = w.mailbox) :
    Traced folder w v := of_stored hh fun _ _ hy => h ▸ hy

theorem refl (folder : String) (w : World Memory) : Traced folder w w :=
  of_mailbox List.prefix_rfl rfl

theorem trans (h : Traced folder w v) (h' : Traced folder v u) : Traced folder w u where
  history := h.history.trans h'.history
  body id y hy := by
    rw [World.since_append h.history h'.history]
    rcases h'.body id y hy with ⟨x, hx, hxy⟩ | ⟨e, he, m, hm⟩
    · rcases h.body id x hx with ⟨z, hz, hzx⟩ | ⟨e, he, m, hm, hid, hbody⟩
      · exact .inl ⟨z, hz, hzx.trans hxy⟩
      · exact .inr ⟨e, List.mem_append_left _ he, m, hm, hid, hbody.trans hxy⟩
    · exact .inr ⟨e, List.mem_append_right _ he, m, hm⟩

/-- Locks do not count. -/
theorem locks {l l' : Locks} (h : Traced folder { w with locks := l } v) :
    Traced folder w { v with locks := l' } := ⟨h.history, h.body⟩

theorem record (h : Traced folder w v) (event : Event) : Traced folder w (v.record event) :=
  h.trans (of_mailbox (List.prefix_append ..) rfl)

end Traced

/-- What was landed came in the replies that were accepted. -/
theorem Landed.traced {bodies : Bodies} {b : Batch} {gone : List String}
    (h : Landed folder bodies b gone w v) : Traced folder w v where
  history := h.history
  body id y hy := by
    have hgone : id ∉ gone := fun hmem => by
      rw [h.message?, if_pos hmem] at hy
      cases hy
    rw [h.message?, if_neg hgone] at hy
    rcases body_foldl_onMessage hy with ⟨z, hz, hbody⟩ | ⟨m, hm, hid, hbody⟩
    · left
      split_ifs at hz
      exact ⟨z, hz, hbody⟩
    · right
      rw [h.deltas] at hm
      obtain ⟨a, ha, hadd⟩ := List.mem_flatMap.mp hm
      obtain ⟨x, hx, hcommand, hreply⟩ := Dialogue.exists_of_mem_accepted ha
      exact ⟨x, hx, m, ⟨hcommand, hreply ▸ hadd⟩, hid, hbody⟩

/-- A pass over the hierarchy takes folders out or leaves their messages alone. -/
theorem message?_of_rebuilt {batch : Hierarchy.Batch} (hf : folder ∈ w.mailbox.folders)
    (h : Hierarchy.Rebuilt w batch v) {id : String} {y : StoredMessage}
    (hy : v.mailbox.message? folder id = some y) : w.mailbox.message? folder id = some y := by
  obtain ⟨k, hk⟩ := Memory.contents_of_mem hf
  rw [← hy, Memory.message?_eq, Memory.message?_eq, h.contents hk (Memory.mem_of_message? hy), hk]

/-- Where an operation on a folder fails, what is stored there was stored before. -/
theorem message?_of_failed (hs : s.Solitary) {e : SyncError} (hf : folder ∈ w.mailbox.folders)
    (h : w.Failed s sess e v) {id : String} {y : StoredMessage}
    (hy : v.mailbox.message? folder id = some y) : w.mailbox.message? folder id = some y := by
  rcases h with h | ⟨-, h⟩
  · cases h with
    | held h => rwa [h.mailbox.message?] at hy
    | refreshed before pass after =>
      obtain ⟨batch, hbatch⟩ := (Hierarchy.ensures_pass hs sess _).ok pass
      rw [after.mailbox.message?] at hy
      have hbefore := message?_of_rebuilt (before.mem_folders hf) hbatch hy
      rwa [before.mailbox.message?] at hbefore
  · -- After a wipe nothing is stored.
    rw [h.mailbox] at hy
    cases hy

theorem Traced.of_failed (hs : s.Solitary) {e : SyncError} (hf : folder ∈ w.mailbox.folders)
    (h : w.Failed s sess e v) : Traced folder w v := by
  have hhistory : w.history <+: v.history := by
    rcases h with h | ⟨-, h⟩
    · exact h.history hs
    · exact h.history
  exact .of_stored hhistory fun _ _ => message?_of_failed hs hf h

/-- A pass that fails brings nothing. -/
theorem ensures_pass_traced (hs : s.Solitary) (sess : Session) (folder : String) (errand : Errand)
    (w : World Memory) :
    Ensures (pass sess folder errand) s w (fun _ _ => True) fun _ v => Traced folder w v := by
  by_cases hf : folder ∈ w.mailbox.folders
  · exact (ensures_pass hs w).mono (fun _ _ _ => trivial) fun _ _ => .of_failed hs hf
  · exact ensures_pass_of_collect (fun _ => .refl folder w) fun h => absurd h hf

theorem ensures_announce_traced {E : SyncError → World Memory → Prop} (h : Traced folder w v)
    (ms : List Message) :
    Ensures (announce folder ms) s v (fun _ u => Traced folder w u) E :=
  .of_ok (runIn_announce s folder ms v) (h.trans (.of_mailbox (List.prefix_append ..) rfl))

section
variable (hs : s.Solitary) (sess : Session) (folder : String)
include hs

theorem ensures_fetch_traced (ids : List String) (w : World Memory) :
    Ensures (fetch sess folder ids) s w (fun _ v => Traced folder w v)
      fun _ v => Traced folder w v :=
  (ensures_fetch_lands hs (ensures_pass_traced hs sess folder (.fetch ids) w)).mono
    (fun _ _ ⟨_, _, h, _⟩ => h.traced) fun _ _ h => h

theorem ensures_completeAll_traced (stats : Stats) (w : World Memory) :
    Ensures (completeAll sess folder stats) s w (fun _ v => Traced folder w v)
      fun _ v => Traced folder w v := by
  have hcomplete (ids : List String) : Ensures (complete sess folder ids) s w
      (fun _ v => Traced folder w v) fun _ v => Traced folder w v := by
    refine (ensures_fetch_traced hs sess folder ids w).bind fun r v hv => ?_
    exact (ensures_announce_traced hv r.downloaded).bind fun _ _ hu => .pure hu
  have hask : Ensures (Operation.ask (.truncatedIds folder)) s w (fun _ v => v = w)
      fun _ v => v = w := .of_ok (Operation.runIn_ask_read rfl s w) rfl
  unfold completeAll
  refine hask.attempt.bind fun r v hv => ?_
  obtain rfl : v = w := by cases r <;> exact hv
  cases r with
  | error e => exact .pure (.refl folder v)
  | ok ids =>
    cases ids with
    | nil => exact .pure (.refl folder v)
    | cons id ids =>
      refine (hcomplete (id :: ids)).attempt.bind fun r u hu => ?_
      cases r with
      | error e => exact .pure hu
      | ok report => exact .pure hu

theorem ensures_syncFolder_traced (w : World Memory) :
    Ensures (syncFolder sess folder) s w (fun _ v => Traced folder w v)
      fun _ v => Traced folder w v := by
  rw [syncFolder_eq]
  refine .withLock (.refl folder w) fun locks _ => ?_
  refine Ensures.mono (R := fun _ v => Traced folder { w with locks } v)
    (F := fun _ v => Traced folder { w with locks } v) ?_ (fun _ _ h => h.locks)
    fun _ _ h => h.locks
  have hpass := ensures_pass_traced hs sess folder .changes { w with locks }
  refine ((ensures_pass_tracks hs sess folder _).failing hpass).bind ?_
  rintro _ v ⟨hfw, p, rounds, rfl, ht, -⟩
  have hf := ht.mem_folders hfw
  obtain ⟨n, hn⟩ := runIn_land (s := s) hf ⟨p.batch, p.stored, p.key, rounds⟩
  have hlanded := (ht.landed hf .any (takesOut_takenOut folder []) rounds).2.traced
  -- A sync settles nothing, so no id is taken out behind the changes.
  rw [takenOut, List.map_nil, World.written_nil] at hlanded
  refine .bind_ok hn ((ensures_announce_traced hlanded _).bind fun _ v' hv' => ?_)
  refine ((ensures_completeAll_traced hs sess folder _ v').mono (fun _ _ h => hv'.trans h)
    fun _ _ h => hv'.trans h).bind fun stats u hu => ?_
  exact .bind_ok (Operation.runIn_ask_read rfl s u) (.pure hu)

theorem ensures_sync_traced (w : World Memory) :
    Ensures (sync sess folder) s w (fun _ v => Traced folder w v) fun _ v => Traced folder w v := by
  refine .bind_ok (Operation.runIn_tell ..) ?_
  have hw : Traced folder w (w.record (.told (.started folder))) := (Traced.refl folder w).record _
  refine ((ensures_syncFolder_traced hs sess folder _).mono (fun _ _ h => hw.trans h)
    fun _ _ h => hw.trans h).attempt.bind fun r v hv => ?_
  cases r with
  | ok stats => exact .bind_ok (Operation.runIn_tell ..) (.pure (hv.record _))
  | error e => exact .bind_ok (Operation.runIn_tell ..) (.throw (hv.record _))

theorem ensures_download_traced (id : String) (w : World Memory) :
    Ensures (download sess folder id) s w (fun _ v => Traced folder w v)
      fun _ v => Traced folder w v := by
  refine ensures_download_of_fetch (fun _ => .refl folder w) (fun _ _ => .refl folder w)
    fun locks => ?_
  exact (ensures_fetch_traced hs sess folder [id] _).mono
    (fun _ _ h _ => ⟨fun _ _ => h.locks, fun _ => h.locks⟩) fun _ _ h _ => h.locks

end

/-- What replies brought under an id since a world came with a body. -/
def Bodied (folder id : String) (w v : World Memory) : Prop :=
  ∀ x ∈ w.since v, ∀ m, Brings folder x m → m.id = id → m.mime.isSome

/-- A message that had a body and is still stored has one still. -/
def KeepsBody (folder id : String) (w v : World Memory) : Prop :=
  ∀ x y, w.mailbox.message? folder id = some x → x.message.mime.isSome →
    v.mailbox.message? folder id = some y → y.message.mime.isSome

theorem Traced.keepsBody (h : Traced folder w v) {id : String} (hb : Bodied folder id w v) :
    KeepsBody folder id w v := by
  intro x y hx hbody hy
  rcases h.body id y hy with ⟨z, hz, hzy⟩ | ⟨e, he, m, hm, hid, hmy⟩
  · cases hx.symm.trans hz
    exact hzy ▸ hbody
  · exact hmy ▸ hb e he m hm hid

/-- However a sync or a download ends, the bodies stored in its folder were there before or came in
replies. No stored body is replaced by nothing, unless a reply brings its message without one. -/
theorem bodies_stay (hs : s.Solitary) (sess : Session) (folder : String) {w v : World Memory}
    (h : v = ((sync sess folder).runIn s w).2 ∨
      ∃ id, v = ((download sess folder id).runIn s w).2) :
    Traced folder w v ∧ ∀ id, Bodied folder id w v → KeepsBody folder id w v := by
  have htraced : Traced folder w v := by
    rcases h with rfl | ⟨id, rfl⟩
    · exact (ensures_sync_traced hs sess folder w).always
    · exact (ensures_download_traced hs sess folder id w).always
  exact ⟨htraced, fun id => htraced.keepsBody⟩

/-- A world with a message in full. -/
def stored : World Memory := .start (World.inbox.mailbox.after
  [.saveMessage "5" { Message.blank "5:1" with mime := some [98] } .complete,
    .setFolderExtra "5" keyMark (some "4")])

/-- A server that brings a message again, with another body. -/
def revising : Script Memory where
  replies := [Response.reply ⟨1, some "5", false,
    [.add { Message.blank "5:1" with mime := some [99] }], []⟩ "5"]
  meanwhile := []
  id := ""

theorem revising_keeps : KeepsBody "5" "5:1" stored
    ((sync .sample "5").runIn revising.surroundings stored).2 := by
  have hs : revising.surroundings.Solitary := Script.solitary_surroundings fun _ h => nomatch h
  refine (bodies_stay hs .sample "5" (.inl rfl)).2 "5:1" fun x hx m hm _ => ?_
  have hreplies : (stored.since ((sync .sample "5").runIn revising.surroundings stored).2).map
      (changes "5" ·.2) = [[.add { Message.blank "5:1" with mime := some [99] }]] := rfl
  have hchanges : changes "5" x.2 ∈ [[Delta.add { Message.blank "5:1" with mime := some [99] }]] :=
    hreplies ▸ List.mem_map_of_mem hx
  have hm := hm.2
  rw [List.mem_singleton.mp hchanges] at hm
  cases List.mem_singleton.mp hm
  rfl

/-- A server that brings a message again, without a body. -/
def emptying : Script Memory where
  replies := [Response.reply ⟨1, some "5", false, [.add (.blank "5:1")], []⟩ "5"]
  meanwhile := []
  id := ""

/-- Not every stored body stays. -/
theorem not_every_body_stays :
    ¬∀ (s : Surroundings Memory) (sess : Session) (folder : String) (w v : World Memory),
      s.Solitary → (v = ((sync sess folder).runIn s w).2 ∨
        ∃ id, v = ((download sess folder id).runIn s w).2) →
      ∀ id, KeepsBody folder id w v := by
  intro h
  have hs : emptying.surroundings.Solitary := Script.solitary_surroundings fun _ h => nomatch h
  have hkeeps := h emptying.surroundings .sample "5" stored _ hs (.inl rfl) "5:1"
  exact absurd (hkeeps ⟨_, .complete⟩ ⟨.blank "5:1", .complete⟩ rfl rfl rfl) (by decide)

end Collection
end MailSync
