import MailSync.Proofs.Collection.Deleting

/-!
# What a change of a flag leaves in its folder

The changes that were accepted are written first, as in any pass. The flag is then set on those of
the messages asked for on which the last verdict that was accepted is a success, or on which there
is none; what was answered before a restart plays no part. Nothing else of any message is touched. A
flag that the server has no command for is refused before anything is sent or written.
-/
namespace MailSync.Collection
open Mailbox (Call Memory Medium)
open Operation (Ensures)

variable {s : Surroundings Memory} {sess : Session} {folder : String} {w v : World Memory}
  {flag : Flag} {state : Bool} {ids : List String}

/-! ### Flags set one by one -/

/-- The calls that set a flag of messages. -/
def flagging (folder : String) (flag : Flag) (state : Bool) (ids : List String) : List Call :=
  ids.map fun id => .setFlag folder id flag state

theorem edits_flagging {c : Call} (h : c ∈ flagging folder flag state ids) : c.Edits folder := by
  obtain ⟨id, -, rfl⟩ := List.mem_map.mp h
  exact .flag id flag state

/-- In a folder that is there all flags are set. -/
theorem runIn_flagging (hf : folder ∈ w.mailbox.folders) (s : Surroundings Memory) (flag : Flag)
    (state : Bool) (ids : List String) :
    (ids.forM fun id => discard (Operation.ask (.setFlag folder id flag state)) :
      Operation Unit).runIn s w = (.ok (), w.written (flagging folder flag state ids)) := by
  have hset := Operation.runIn_forM_ask
    (fun c (hc : c ∈ flagging folder flag state ids) => (edits_flagging hc).isWrite) s
    (Memory.accepts_of_edits (fun _ => edits_flagging) hf)
  rw [flagging, List.forM_eq_forM, List.forM_map] at hset
  exact hset

/-- However often a message is named, its flag is set once. -/
theorem getElem?_editAll_flagging (folder : String) (flag : Flag) (state : Bool)
    (ids : List String) (ms : Messages) (id : String) :
    (Mailbox.editAll (flagging folder flag state ids) ms)[id]? =
      if id ∈ ids then ms[id]?.map (.mapFlags (·.set state flag)) else ms[id]? := by
  let put : StoredMessage → StoredMessage := .mapFlags (·.set state flag)
  have htwice (x : Option StoredMessage) : (x.map put).map put = x.map put := by
    have hput : put ∘ put = put :=
      funext (StoredMessage.overwriting_fixes.idem ⟨_, Flags.fixes_set flag state, rfl⟩)
    rw [Option.map_map, hput]
  rw [Mailbox.getElem?_editAll]
  generalize ms[id]? = x
  induction ids generalizing x with
  | nil => exact (if_neg List.not_mem_nil).symm
  | cons i ids ih =>
    have hstep : (Call.setFlag folder i flag state).editOf id x =
        if i = id then x.map put else x := rfl
    rw [flagging, List.map_cons, List.foldl_cons, ← flagging, ih, hstep]
    by_cases hi : i = id
    · rw [if_pos hi, htwice, ite_self, hi, if_pos List.mem_cons_self]
    · have hmem : id ∈ i :: ids ↔ id ∈ ids := by
        rw [List.mem_cons, or_iff_right (Ne.symm hi)]
      simp only [if_neg hi, hmem]

/-! ### What becomes of each message -/

/-- The same messages as before, except that one flag has been set on some of them. -/
structure SetsFlag (flag : Flag) (state : Bool) (chosen : String → Prop)
    (before after : Messages) : Prop where
  mem_iff : ∀ id, id ∈ after ↔ id ∈ before
  /-- All but the flags of a message. -/
  rest : ∀ (id : String) (x y : StoredMessage), before[id]? = some x → after[id]? = some y →
    y = x.mapFlags fun _ => y.message.flags
  taken : ∀ (id : String) (x y : StoredMessage), before[id]? = some x → after[id]? = some y →
    chosen id → y.message.flags.has flag = state
  kept : ∀ (id : String) (x y : StoredMessage), before[id]? = some x → after[id]? = some y →
    ∀ other, ¬(other = flag ∧ chosen id) → y.message.flags.has other = x.message.flags.has other

theorem setsFlag_of_getElem? {chosen : String → Prop} {before after : Messages}
    (hflag : Flags.keeps flag = true) (hchosen : ∀ id, id ∈ ids ↔ chosen id)
    (h : ∀ id, after[id]? =
      if id ∈ ids then before[id]?.map (.mapFlags (·.set state flag)) else before[id]?) :
    SetsFlag flag state chosen before after := by
  have hcases (id : String) (x y : StoredMessage) (hx : before[id]? = some x)
      (hy : after[id]? = some y) :
      (chosen id ∧ y = x.mapFlags (·.set state flag)) ∨ (¬chosen id ∧ y = x) := by
    rw [h id, hx] at hy
    by_cases hid : id ∈ ids
    · rw [if_pos hid] at hy
      exact .inl ⟨(hchosen id).mp hid, (Option.some.inj hy).symm⟩
    · rw [if_neg hid] at hy
      exact .inr ⟨mt (hchosen id).mpr hid, (Option.some.inj hy).symm⟩
  constructor
  · intro id
    rw [Std.ExtTreeMap.mem_iff_isSome_getElem?, Std.ExtTreeMap.mem_iff_isSome_getElem?, h id]
    by_cases hid : id ∈ ids
    · rw [if_pos hid, Option.isSome_map]
    · rw [if_neg hid]
  · intro id x y hx hy
    rcases hcases id x y hx hy with ⟨-, rfl⟩ | ⟨-, rfl⟩ <;> rfl
  · intro id x y hx hy hid
    rcases hcases id x y hx hy with ⟨-, rfl⟩ | ⟨hno, -⟩
    · exact (Flags.has_set ..).trans (if_pos ⟨rfl, hflag⟩)
    · exact absurd hid hno
  · intro id x y hx hy other hother
    rcases hcases id x y hx hy with ⟨hid, rfl⟩ | ⟨-, rfl⟩
    · exact (Flags.has_set ..).trans (if_neg fun hsame => hother ⟨hsame.1.symm, hid⟩)
    · rfl

/-! ### A change of a flag, from its pass to its key -/

/-- The messages of a folder once the accepted changes are written to it. -/
def messagesAfter (folder : String) (st : Standing) (ms : Messages) : Messages :=
  (st.gathered (changes folder)).foldl Delta.on (if st.isFresh then ∅ else ms)

theorem tookFlag_iff {b : Batch} {id : String} :
    tookFlag b id = true ↔ b.status? id .change ∈ [none, some 1] := by
  unfold tookFlag
  cases b.status? id .change <;> simp

/-- Where a pass ended, to write what it collected, other edits and its key is to land it. -/
theorem Tracks.lands {p : Progress} (h : Tracks sess folder w p v) {k}
    (hk : w.mailbox.contents folder = some k) {calls : List Call}
    (hcalls : ∀ call ∈ calls, call.Edits folder) (rounds : Nat) {u : World Memory}
    (hu : u = ((v.written (p.batch.calls folder .any)).written calls).written
      (Collected.keyCalls folder ⟨p.batch, p.stored, p.key, rounds⟩)) :
    standing folder w u = standing folder w v ∧
      u.mailbox.messages? folder =
        some (Mailbox.editAll calls (messagesAfter folder (standing folder w v) k.2)) ∧
      u.mailbox.key? folder = (standing folder w v).key := by
  have hstored : p.stored = v.mailbox.key? folder := by
    rw [h.stored, Memory.key?_eq, Memory.key?_eq, h.contents]
  have hall : ∀ call ∈ p.batch.calls folder .any ++ calls, call.Edits folder := fun call hcall =>
    (List.mem_append.mp hcall).elim Batch.edits_calls (hcalls call)
  have hbatch : Mailbox.editAll (p.batch.calls folder .any) k.2 =
      messagesAfter folder (standing folder w v) k.2 := by
    rw [Batch.editAll_calls, h.batchOf]
    rfl
  obtain ⟨hmessages, hkey⟩ := Collected.lands (c := ⟨p.batch, p.stored, p.key, rounds⟩)
    (h.contents.trans hk) hstored hall
  rw [Memory.after_append] at hmessages hkey
  rw [Mailbox.editAll, List.foldl_append, ← Mailbox.editAll, ← Mailbox.editAll, hbatch] at hmessages
  rw [hu]
  refine ⟨?_, hmessages, hkey.trans h.key⟩
  rw [standing_written, standing_written, standing_written]

/-- What a change of a flag leaves in a folder that held these messages before. -/
structure Flagged (folder : String) (ids : List String) (flag : Flag) (state : Bool)
    (ms : Messages) (b : Batch) (w v : World Memory) : Prop where
  accepted : (standing folder w v).accepted ≠ []
  batch : b = batchOf folder (standing folder w v)
  messages? : v.mailbox.messages? folder =
    some (Mailbox.editAll (flagging folder flag state (ids.filter (tookFlag b)))
      (messagesAfter folder (standing folder w v) ms))
  key? : v.mailbox.key? folder = (standing folder w v).key

/-- Locks do not count. -/
theorem Flagged.locks {ms : Messages} {b : Batch} {l : Locks}
    (h : Flagged folder ids flag state ms b w v) :
    Flagged folder ids flag state ms b w { v with locks := l } :=
  ⟨h.accepted, h.batch, h.messages?, h.key?⟩

/-- A change of a flag that ends well has landed what was accepted, and has then set the flag where
it was taken. -/
theorem ensures_changeFlag_lands (hs : s.Solitary) (ids : List String) (flag : Flag)
    (state : Bool) :
    Ensures (changeFlag sess folder ids flag state) s w
      (fun _ v => ∃ ms b, w.mailbox.messages? folder = some ms ∧
        Flagged folder ids flag state ms b w v) fun _ _ => True := by
  refine .withLock trivial fun locks _ => ?_
  refine (ensures_pass_tracks hs sess folder { w with locks }).bind ?_
  rintro _ v ⟨hfw, p, rounds, rfl, ht, ha⟩
  -- The pass began with the lock of the folder taken, which is not tracked.
  replace ht : Tracks sess folder w p v := ht.of_eq rfl rfl rfl rfl
  replace ha : (standing folder w v).accepted ≠ [] := ha
  let taken := ids.filter (tookFlag p.batch)
  obtain ⟨k, hk⟩ := Memory.contents_of_mem (m := w.mailbox) hfw
  have hms : w.mailbox.messages? folder = some k.2 := by
    rw [Memory.messages?_eq, hk, Option.map_some]
  have hbatch : folder ∈ (v.written (p.batch.calls folder .any)).mailbox.folders :=
    (Memory.mem_after_of_edits fun _ => Batch.edits_calls).mpr (ht.mem_folders hfw)
  have hedits : ∀ c ∈ flagging folder flag state taken, c.Edits folder := fun _ => edits_flagging
  obtain ⟨n, hwrite⟩ := p.batch.runIn_write .any s (ht.mem_folders hfw)
  refine .bind_ok (a := ()) (by rw [Operation.runIn_discard, hwrite]; rfl) ?_
  refine .bind_ok (runIn_flagging hbatch s flag state taken) ?_
  refine .of_ok (runIn_commit ((Memory.mem_after_of_edits hedits).mpr hbatch) _) ?_
  obtain ⟨hstanding, hmessages, hkey⟩ := ht.lands hk hedits rounds rfl
  have hb := ht.batchOf
  rw [← hstanding] at ha hb hmessages hkey
  exact ⟨k.2, p.batch, hms, Flagged.locks ⟨ha, hb, hmessages, hkey⟩⟩

/-- A change of the seen or the flagged mark that ends well leaves the messages that the accepted
changes made of those before, or of none if an initial key was answered, and no others. The flag is
set on those asked for on which the last accepted verdict is 1 or there is none; on the others, and
in all else, a message is what the changes made of it. The key is that of the last accepted reply.
To clear the deleted flag and to set or clear answered and forwarded is refused whatever the
mailbox, and nothing is sent or written; to set the deleted flag is to delete. -/
theorem flags_follow_verdicts (sess : Session) (folder : String) (ids : List String) :
    (∀ {s : Surroundings Memory} {w v : World Memory} {flag : Flag} {state : Bool}, s.Solitary →
      ids ≠ [] → flag = .seen ∨ flag = .flagged →
      (setFlag sess folder ids flag state).runIn s w = (.ok (), v) →
      ∃ before after sent reply, w.mailbox.messages? folder = some before ∧
        v.mailbox.messages? folder = some after ∧
        SetsFlag flag state
          (fun id => id ∈ ids ∧ status? folder (standing folder w v) id .change ∈ [none, some 1])
          (messagesAfter folder (standing folder w v) before) after ∧
        (standing folder w v).accepted.getLast? = some (sent, reply) ∧
        v.mailbox.key? folder = some (keyAfter folder sent reply)) ∧
    ∀ {σ : Type} [Medium σ] (s : Surroundings σ) (w : World σ),
      (setFlag sess folder ids .deleted false).runIn s w =
        (.error (.unsupported "clearing the deleted flag"), w) ∧
      (∀ flag state, flag = .answered ∨ flag = .forwarded →
        (setFlag sess folder ids flag state).runIn s w =
          (.error (.unsupported "setting answered or forwarded flags"), w)) ∧
      (setFlag sess folder ids .deleted true).runIn s w =
        (((deleteMessages sess folder ids).runIn s w).1.map fun _ => (),
          ((deleteMessages sess folder ids).runIn s w).2) := by
  constructor
  · intro s w v flag state hs hids hflag h
    have hrun : setFlag sess folder ids flag state = changeFlag sess folder ids flag state := by
      have hempty : ids.isEmpty = false := by simpa using hids
      rcases hflag with rfl | rfl <;> simp [setFlag, hempty]
    have hkeeps : Flags.keeps flag = true := by rcases hflag with rfl | rfl <;> rfl
    obtain ⟨before, b, hbefore, hflagged⟩ :=
      (ensures_changeFlag_lands hs ids flag state).ok (hrun ▸ h)
    obtain ⟨⟨sent, reply⟩, hlast⟩ := Option.ne_none_iff_exists'.mp
      (mt List.getLast?_eq_none_iff.mp hflagged.accepted)
    refine ⟨before, _, sent, reply, hbefore, hflagged.messages?, ?_, hlast, ?_⟩
    · refine setsFlag_of_getElem? hkeeps (fun id => ?_) fun id => getElem?_editAll_flagging ..
      rw [List.mem_filter, tookFlag_iff, hflagged.batch, status?_batchOf]
    · rw [hflagged.key?, keyed_standing folder w v _ hlast]
  · intro σ _ s w
    refine ⟨rfl, ?_, Operation.runIn_discard ..⟩
    rintro flag state (rfl | rfl) <;> rfl

/-- A server that refuses two changes of a flag, takes one of them in a second round, and marks and
deletes messages of its own accord. -/
def wavering : Script Memory where
  replies := [⟨1, some "5", true, [], [⟨"5:1", .change, 6⟩, ⟨"5:2", .change, 6⟩]⟩,
    ⟨1, some "6", false, [.flag "5:2" .flagged true, .delete "5:3"],
      [⟨"5:1", .change, 1⟩]⟩].map fun r : Response => r.reply "5"
  meanwhile := []
  id := ""

theorem wavering_follows_verdicts : wavering.surroundings.Solitary ∧ ∃ v after,
    (setFlag .sample "5" ["5:1", "5:2", "5:1", "5:9"] .seen true).runIn wavering.surroundings
        (filled ["5:1", "5:2", "5:3", "5:4"]) = (.ok (), v) ∧
    v.mailbox.messages? "5" = some after ∧ "5:1" ∈ after ∧ "5:3" ∉ after ∧ "5:9" ∉ after ∧
    (∀ y, after["5:1"]? = some y → y.message.flags.has .seen = true) ∧
    (∀ y, after["5:2"]? = some y →
      y.message.flags.has .seen = false ∧ y.message.flags.has .flagged = true) ∧
    v.mailbox.key? "5" = some "6" := by
  have hs : wavering.surroundings.Solitary := Script.solitary_surroundings fun _ h => nomatch h
  have hrun : (setFlag .sample "5" ["5:1", "5:2", "5:1", "5:9"] .seen true).runIn
      wavering.surroundings (filled ["5:1", "5:2", "5:3", "5:4"]) =
        (.ok (), ((setFlag .sample "5" ["5:1", "5:2", "5:1", "5:9"] .seen true).runIn
          wavering.surroundings (filled ["5:1", "5:2", "5:3", "5:4"])).2) := Prod.ext rfl rfl
  obtain ⟨before, after, sent, reply, hbefore, hafter, hsets, hlast, hkey⟩ :=
    (flags_follow_verdicts .sample "5" ["5:1", "5:2", "5:1", "5:9"]).1 hs (by decide) (.inl rfl)
      hrun
  obtain rfl := Option.some.inj (hbefore.symm.trans rfl)
  obtain ⟨rfl, rfl⟩ := Prod.mk.inj (Option.some.inj (hlast.symm.trans rfl))
  refine ⟨hs, _, after, hrun, hafter, (hsets.mem_iff _).mpr (by decide),
    mt (hsets.mem_iff _).mp (by decide), mt (hsets.mem_iff _).mp (by decide), ?_, ?_, hkey⟩
  · intro y hy
    exact hsets.taken "5:1" _ y rfl hy (by decide)
  · intro y hy
    constructor
    · exact hsets.kept "5:2" _ y rfl hy .seen (by decide)
    · exact hsets.kept "5:2" _ y rfl hy .flagged (by decide)

end MailSync.Collection
