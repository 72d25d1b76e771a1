import MailSync.Hierarchy.Pass
import MailSync.Proofs.Hierarchy.Replay

/-!
# Writing a batch of folders, again and again

What is written is the difference between the stored records and the replayed ones. Each of its
calls completes the folders that it names: whatever has been written of them already, they stand
under their new record afterwards and hold what they held. So a crash leaves a mailbox between the
old one and the new one, each folder as it was or as it is to be; a replay over its records comes to
the same records, and writing their difference completes what is left.
-/
namespace MailSync
open Mailbox (Call Memory Folder)

namespace Mailbox

/-- Whether a call creates, deletes or renames the folder with an id. -/
def Call.names (id : String) : Call → Prop
  | .createFolders rs => ∃ r ∈ rs, r.id = id
  | .deleteFolders ids => id ∈ ids
  | .changeFolder key _ _ => key = id
  | _ => False

/-- The calls that only create, delete and rename folders. -/
inductive Call.Reshapes : Call → Prop
  | create (rs : List FolderRecord) : Reshapes (.createFolders rs)
  | delete (ids : List String) : Reshapes (.deleteFolders ids)
  | change (id name : String) (role : FolderRole) : Reshapes (.changeFolder id name role)

theorem Call.Reshapes.isWrite {call : Call} (h : call.Reshapes) : call.isWrite = true := by
  cases h <;> rfl

namespace Memory
open Hierarchy (Records Difference changeCall)

theorem answer_of_reshapes {call : Call} (h : call.Reshapes) (m : Memory) :
    ∃ a, (answer call m).1 = .ok a := by
  cases h <;> exact ⟨(), rfl⟩

/-- The folder under an id once the records of a mailbox are replaced. -/
def under (m : Memory) (after : Records) (id : String) : Option Folder :=
  after[id]?.map fun r => .adopt r m.folders[id]?

/-- Each folder is still as in a mailbox, or as it is to be under other records. -/
structure Between (m : Memory) (after : Records) (x : Memory) : Prop where
  extras : x.extras = m.extras
  folders : ∀ id : String, x.folders[id]? = m.folders[id]? ∨ x.folders[id]? = m.under after id

/-- A call that brings the folders it names to where they are to be and leaves the others. -/
def Completes (m : Memory) (after : Records) (call : Call) : Prop :=
  ∀ x, m.Between after x → (x.next call).extras = x.extras ∧
    ∀ id : String, (call.names id → (x.next call).folders[id]? = m.under after id) ∧
      (¬call.names id → (x.next call).folders[id]? = x.folders[id]?)

variable {m x : Memory} {after : Records}

theorem Between.refl (m : Memory) (after : Records) : m.Between after m :=
  ⟨rfl, fun _ => .inl rfl⟩

theorem Completes.between {call : Call} (hc : m.Completes after call) (hx : m.Between after x) :
    m.Between after (x.next call) where
  extras := (hc x hx).1.trans hx.extras
  folders id := by
    by_cases h : call.names id
    · exact .inr (((hc x hx).2 id).1 h)
    · rw [((hc x hx).2 id).2 h]
      exact hx.folders id

/-- Calls that complete what they name, made in a row. -/
theorem Between.after_calls {calls : List Call} (hc : ∀ c ∈ calls, m.Completes after c)
    (hx : m.Between after x) : m.Between after (x.after calls) := by
  induction calls generalizing x with
  | nil => exact hx
  | cons c calls ih =>
    exact ih (fun d hd => hc d (List.mem_cons_of_mem c hd)) ((hc c List.mem_cons_self).between hx)

theorem Between.folders_after {calls : List Call} (hc : ∀ c ∈ calls, m.Completes after c)
    (hx : m.Between after x) (id : String)
    (h : x.folders[id]? = m.under after id ∨ ∃ c ∈ calls, c.names id) :
    (x.after calls).folders[id]? = m.under after id := by
  induction calls generalizing x with
  | nil =>
    rcases h with h | ⟨c, hc, -⟩
    · exact h
    · cases hc
  | cons c calls ih =>
    have hcc := hc c List.mem_cons_self
    refine ih (fun d hd => hc d (List.mem_cons_of_mem c hd)) (hcc.between hx) ?_
    by_cases hn : c.names id
    · exact .inl (((hcc x hx).2 id).1 hn)
    · rcases h with h | ⟨d, hd, hdn⟩
      · exact .inl ((((hcc x hx).2 id).2 hn).trans h)
      · rcases List.mem_cons.mp hd with rfl | hd
        · exact absurd hdn hn
        · exact .inr ⟨d, hd, hdn⟩

theorem Between.folders_after_of_not_names {calls : List Call}
    (hc : ∀ c ∈ calls, m.Completes after c) (hx : m.Between after x) {id : String}
    (h : ∀ c ∈ calls, ¬c.names id) : (x.after calls).folders[id]? = x.folders[id]? := by
  induction calls generalizing x with
  | nil => rfl
  | cons c calls ih =>
    have hcc := hc c List.mem_cons_self
    have hn := ((hcc x hx).2 id).2 (h c List.mem_cons_self)
    rw [after_cons, ih (fun d hd => hc d (List.mem_cons_of_mem c hd)) (hcc.between hx)
      fun d hd => h d (List.mem_cons_of_mem c hd), hn]

theorem completes_delete {ids : List String} (h : ∀ id ∈ ids, after[id]? = none) :
    m.Completes after (.deleteFolders ids) := by
  intro x hx
  refine ⟨extras_foldl_delete x ids, fun id => ?_⟩
  have hid : (x.next (.deleteFolders ids)).folders[id]? =
      if id ∈ ids then none else x.folders[id]? := getElem?_foldl_delete x ids id
  constructor
  · intro hn
    rw [hid, if_pos (show id ∈ ids from hn), under, h id hn, Option.map_none]
  · intro hn
    rw [hid, if_neg (show id ∉ ids from hn)]

theorem under_of_some {r : FolderRecord} (hr : after[r.id]? = some r) :
    m.under after r.id = some (.adopt r m.folders[r.id]?) := by
  rw [under, hr, Option.map_some]

/-- One folder is put under its new record, which it may have already. -/
theorem completes_put {r : FolderRecord} (hr : after[r.id]? = some r) :
    m.Completes after (.createFolders [r]) := by
  intro x hx
  refine ⟨rfl, fun id => ?_⟩
  have hid : (x.next (.createFolders [r])).folders[id]? =
      if r.id = id then some (.adopt r x.folders[id]?) else x.folders[id]? := getElem?_create x r id
  constructor
  · rintro ⟨r', hr', rfl⟩
    obtain rfl := List.mem_singleton.mp hr'
    rw [hid, if_pos rfl, under_of_some hr]
    rcases hx.folders r'.id with h | h
    · rw [h]
    · rw [h, under_of_some hr, Folder.adopt_adopt]
  · intro hn
    rw [hid, if_neg fun h => hn ⟨r, List.mem_singleton_self r, h⟩]

theorem after_map_create (m : Memory) (rs : List FolderRecord) :
    m.after (rs.map fun r => .createFolders [r]) = m.next (.createFolders rs) := by
  induction rs generalizing m with
  | nil => rfl
  | cons r rs ih => exact ih (m.create r)

theorem completes_create {rs : List FolderRecord} (h : ∀ r ∈ rs, after[r.id]? = some r) :
    m.Completes after (.createFolders rs) := by
  intro x hx
  have hput : ∀ c ∈ rs.map fun r => Call.createFolders [r], m.Completes after c := by
    intro c hc
    obtain ⟨r, hr, rfl⟩ := List.mem_map.mp hc
    exact completes_put (h r hr)
  rw [← after_map_create]
  refine ⟨?_, fun id => ⟨?_, ?_⟩⟩
  · rw [after_map_create]
    exact extras_foldl_create x rs
  · rintro ⟨r, hr, hid⟩
    exact hx.folders_after hput id
      (.inr ⟨_, List.mem_map_of_mem hr, r, List.mem_singleton_self r, hid⟩)
  · intro hn
    refine hx.folders_after_of_not_names hput fun c hc => ?_
    obtain ⟨r, hr, rfl⟩ := List.mem_map.mp hc
    rintro ⟨r', hr', hid⟩
    obtain rfl := List.mem_singleton.mp hr'
    exact hn ⟨r', hr, hid⟩

/-- A folder that stays where it is gets its new name and role. -/
theorem completes_change {f : Folder} {new : FolderRecord} (hf : m.folders[new.id]? = some f)
    (hid : f.record.id = new.id) (hp : f.record.parent = new.parent)
    (hr : after[new.id]? = some new) :
    m.Completes after (.changeFolder new.id new.name new.role) := by
  intro x hx
  refine ⟨rfl, fun id => ?_⟩
  have hnext := getElem?_rename x new.id new.name new.role id
  constructor
  · rintro rfl
    refine hnext.trans ?_
    rw [if_pos rfl, under_of_some hr, hf]
    rcases hx.folders new.id with h | h
    · rw [h, hf, Option.map_some, Folder.rename_eq_adopt hid hp]
    · rw [h, under_of_some hr, hf]
      rfl
  · intro hn
    exact hnext.trans (if_neg hn)

theorem completes_changeCall {f : Folder} {new : FolderRecord} (hf : m.folders[new.id]? = some f)
    (hid : f.record.id = new.id) (hr : after[new.id]? = some new) :
    m.Completes after (changeCall f.record new) := by
  unfold changeCall
  split_ifs with hp
  · exact completes_change hf hid hp hr
  · exact completes_put hr

theorem names_changeCall {old new : FolderRecord} {id : String} :
    (changeCall old new).names id ↔ new.id = id := by
  unfold changeCall
  split_ifs
  · exact Iff.rfl
  · constructor
    · rintro ⟨r, hr, h⟩
      rw [← List.mem_singleton.mp hr, h]
    · exact fun h => ⟨new, List.mem_singleton_self new, h⟩

section
variable {id : String}

/-- A folder that a call does not delete keeps what it holds. -/
theorem contents_next_of_reshapes {call : Call} (hc : call.Reshapes)
    (hd : ∀ ids, call = .deleteFolders ids → id ∉ ids) {k} (h : x.contents id = some k) :
    (x.next call).contents id = some k := by
  cases hc with
  | create rs => exact contents_foldl_create_of_some h rs
  | delete ids => exact (contents_foldl_delete x ids id).trans ((if_neg (hd ids rfl)).trans h)
  | change key name role => exact (contents_rename x key name role id).trans h

theorem contents_next_of_not_names {call : Call} (hc : call.Reshapes) (hn : ¬call.names id)
    (h : x.contents id = none) : (x.next call).contents id = none := by
  cases hc with
  | create rs => exact (contents_foldl_create_of_ne (fun r hr he => hn ⟨r, hr, he⟩) x).trans h
  | delete ids => exact (contents_foldl_delete x ids id).trans ((if_neg hn).trans h)
  | change key name role => exact (contents_rename x key name role id).trans h

theorem contents_after_of_reshapes {calls : List Call} (hc : ∀ c ∈ calls, c.Reshapes)
    (hd : ∀ ids, .deleteFolders ids ∈ calls → id ∉ ids) {k} (h : x.contents id = some k) :
    (x.after calls).contents id = some k := by
  induction calls generalizing x with
  | nil => exact h
  | cons c calls ih =>
    refine ih (fun d hd => hc d (List.mem_cons_of_mem c hd))
      (fun ids h => hd ids (List.mem_cons_of_mem c h)) ?_
    refine contents_next_of_reshapes (hc c List.mem_cons_self) (fun ids he => ?_) h
    exact hd ids (he ▸ List.mem_cons_self)

theorem contents_after_of_not_names {calls : List Call} (hc : ∀ c ∈ calls, c.Reshapes)
    (hn : ∀ c ∈ calls, ¬c.names id) (h : x.contents id = none) :
    (x.after calls).contents id = none := by
  induction calls generalizing x with
  | nil => exact h
  | cons c calls ih =>
    refine ih (fun d hd => hc d (List.mem_cons_of_mem c hd))
      (fun d hd => hn d (List.mem_cons_of_mem c hd)) ?_
    exact contents_next_of_not_names (hc c List.mem_cons_self) (hn c List.mem_cons_self) h

end

end Memory
end Mailbox

namespace Hierarchy
open Operation (Writes)

namespace Difference
variable {m : Memory} {after : Records}

theorem mem_added {r : FolderRecord} (ha : after.Keyed) :
    r ∈ (between (.of m) after).added ↔ after[r.id]? = some r ∧ r.id ∉ Records.of m := by
  simp only [between, List.mem_filter, Mailbox.mem_values, decide_eq_true_eq]
  refine and_congr_left fun _ => ⟨?_, fun h => ⟨r.id, h⟩⟩
  rintro ⟨key, h⟩
  rw [ha key r h, h]

theorem mem_removed {id : String} :
    id ∈ (between (.of m) after).removed ↔ id ∈ Records.of m ∧ id ∉ after := by
  simp only [between, List.mem_filter, Std.ExtTreeMap.mem_keys, decide_eq_true_eq]

theorem mem_changed {old new : FolderRecord} (ha : after.Keyed) :
    (old, new) ∈ (between (.of m) after).changed ↔
      after[new.id]? = some new ∧ (Records.of m)[new.id]? = some old ∧ old ≠ new := by
  simp only [between, List.mem_filterMap, Mailbox.mem_values]
  constructor
  · rintro ⟨r, ⟨key, h⟩, hc⟩
    cases hold : (Records.of m)[r.id]? with
    | none => rw [hold] at hc; cases hc
    | some o =>
      rw [hold] at hc
      simp only at hc
      split_ifs at hc with he
      obtain ⟨rfl, rfl⟩ := Prod.mk.inj (Option.some.inj hc)
      exact ⟨ha key r h ▸ h, hold, he⟩
  · rintro ⟨h, hold, he⟩
    exact ⟨new, ⟨new.id, h⟩, by rw [hold]; exact if_neg he⟩

theorem completes_calls (hm : m.Keyed) (ha : after.Keyed) :
    ∀ c ∈ (between (.of m) after).calls, m.Completes after c := by
  intro c hc
  simp only [calls, List.mem_cons, List.mem_map] at hc
  rcases hc with rfl | rfl | ⟨⟨old, new⟩, h, rfl⟩
  · refine Memory.completes_delete fun id hid => ?_
    exact Std.ExtTreeMap.getElem?_eq_none (mem_removed.mp hid).2
  · exact Memory.completes_create fun r hr => ((mem_added ha).mp hr).1
  · obtain ⟨hr, hold, -⟩ := (mem_changed ha).mp h
    rw [Records.getElem?_of hm] at hold
    obtain ⟨f, hf, rfl⟩ := Option.map_eq_some_iff.mp hold
    exact Memory.completes_changeCall hf (hm new.id f hf) hr

/-- A folder that no call names is where it is to be already. -/
theorem under_of_not_names (hm : m.Keyed) (ha : after.Keyed) {id : String}
    (h : ∀ c ∈ (between (.of m) after).calls, ¬c.names id) :
    m.folders[id]? = m.under after id := by
  have hof := Records.getElem?_of hm id
  cases hr : after[id]? with
  | none =>
    have hu : m.under after id = none := by rw [Memory.under, hr, Option.map_none]
    rw [hu]
    cases hf : m.folders[id]? with
    | none => rfl
    | some f =>
      rw [hf] at hof
      have hid : id ∈ (between (.of m) after).removed :=
        mem_removed.mpr ⟨Records.mem_iff.mpr ⟨_, hof⟩, Records.not_mem_iff.mpr hr⟩
      exact absurd hid (h _ List.mem_cons_self)
  | some r =>
    obtain rfl := ha id r hr
    rw [Memory.under_of_some hr]
    cases hf : m.folders[r.id]? with
    | none =>
      have hof : (Records.of m)[r.id]? = none := by rw [hof, hf, Option.map_none]
      have hid := (mem_added ha).mpr ⟨hr, Records.not_mem_iff.mpr hof⟩
      exact absurd ⟨r, hid, rfl⟩ (h _ (List.mem_cons_of_mem _ List.mem_cons_self))
    | some f =>
      rw [hf, Option.map_some] at hof
      by_cases he : f.record = r
      · rw [Folder.adopt, ← he]
      · have hid := (mem_changed ha).mpr ⟨hr, hof, he⟩
        refine absurd (Memory.names_changeCall.mpr rfl) (h (changeCall f.record r) ?_)
        exact List.mem_cons_of_mem _ (List.mem_cons_of_mem _ (List.mem_map_of_mem hid))

/-- Once all calls are made every folder is where it is to be. -/
theorem folders_after (hm : m.Keyed) (ha : after.Keyed) (id : String) :
    (m.after (between (.of m) after).calls).folders[id]? = m.under after id := by
  refine (Memory.Between.refl m after).folders_after (completes_calls hm ha) id ?_
  by_cases h : ∃ c ∈ (between (.of m) after).calls, c.names id
  · exact .inr h
  · exact .inl (under_of_not_names hm ha fun c hc hn => h ⟨c, hc, hn⟩)

theorem reshapes_of_mem_calls {d : Difference} {c : Call} (h : c ∈ d.calls) : c.Reshapes := by
  simp only [calls, List.mem_cons, List.mem_map] at h
  rcases h with rfl | rfl | ⟨⟨old, new⟩, -, rfl⟩
  · exact .delete _
  · exact .create _
  · unfold changeCall
    split_ifs
    · exact .change _ _ _
    · exact .create _

theorem contents_after_of_mem_removed (ha : after.Keyed) {id : String}
    (h : id ∈ (between (.of m) after).removed) :
    (m.after (between (.of m) after).calls).contents id = none := by
  obtain ⟨hm, hn⟩ := mem_removed.mp h
  have hreshapes : ∀ c ∈ (between (.of m) after).calls, c.Reshapes :=
    fun _ => reshapes_of_mem_calls
  have hgone : (m.next (.deleteFolders (between (.of m) after).removed)).contents id = none :=
    (Memory.contents_foldl_delete m _ id).trans (if_pos h)
  -- No later call names it: it was there before, and it is not to be there afterwards.
  rw [calls, Memory.after_cons]
  refine Memory.contents_after_of_not_names
    (fun c hc => hreshapes c (List.mem_cons_of_mem _ hc)) (fun c hc hnames => ?_) hgone
  rcases List.mem_cons.mp hc with rfl | hc
  · obtain ⟨r, hadd, rfl⟩ := hnames
    exact ((mem_added ha).mp hadd).2 hm
  · obtain ⟨⟨old, new⟩, hch, rfl⟩ := List.mem_map.mp hc
    obtain rfl := Memory.names_changeCall.mp hnames
    exact hn (Records.mem_iff.mpr ⟨new, ((mem_changed ha).mp hch).1⟩)

/-- A folder that is there before the calls and after them was never away in between. -/
theorem contents_after (ha : after.Keyed) {id : String} {k} (hk : m.contents id = some k)
    (hid : id ∈ (m.after (between (.of m) after).calls).folders) :
    (m.after (between (.of m) after).calls).contents id = some k := by
  refine Memory.contents_after_of_reshapes (fun _ => reshapes_of_mem_calls) (fun ids h hr => ?_) hk
  simp only [calls, List.mem_cons, List.mem_map, Call.deleteFolders.injEq] at h
  rcases h with rfl | h | ⟨⟨old, new⟩, -, h⟩
  · obtain ⟨k', hk'⟩ := Memory.contents_of_mem hid
    cases hk'.symm.trans (contents_after_of_mem_removed ha hr)
  · cases h
  · unfold changeCall at h
    split_ifs at h

end Difference

/-- The difference that a batch makes to a mailbox. -/
def Batch.difference (b : Batch) (m : Memory) : Difference := .between (.of m) (b.replay (.of m))

/-- To write a batch is to make the calls of its difference, and they all succeed. -/
theorem runIn_write (b : Batch) (s : Surroundings Memory) (w : World Memory) :
    (write b).runIn s w =
      (.ok (b.difference w.mailbox), w.written (b.difference w.mailbox).calls) := by
  have hr : (Operation.ask .folders).runIn s w = (.ok w.mailbox.records, w) :=
    Operation.runIn_ask_read rfl s w
  have hc := Memory.accepts_of_forall (fun c hc => Memory.answer_of_reshapes
    ((b.difference w.mailbox).reshapes_of_mem_calls hc)) w.mailbox
  have hw := Operation.runIn_forM_ask
    (fun _ hc => ((b.difference w.mailbox).reshapes_of_mem_calls hc).isWrite) s hc
  rw [write, Operation.runIn_bind_ok hr]
  exact Operation.runIn_bind_ok hw _

section
variable {m x : Memory} {after : Records}

theorem record_under (m : Memory) (after : Records) (id : String) :
    (m.under after id).map (·.record) = after[id]? := by
  rw [Memory.under, Option.map_map]
  cases after[id]? with
  | none => rfl
  | some r => cases h : m.folders[id]? <;> rfl

theorem under_of_between (ha : after.Keyed) (hx : m.Between after x) (id : String) :
    x.under after id = m.under after id := by
  cases hr : after[id]? with
  | none => rw [Memory.under, Memory.under, hr, Option.map_none, Option.map_none]
  | some r =>
    obtain rfl := ha id r hr
    rw [Memory.under_of_some hr, Memory.under_of_some hr]
    rcases hx.folders r.id with h | h
    · rw [h]
    · rw [h, Memory.under_of_some hr, Folder.adopt_adopt]

/-- A replay over records of which some are new already comes to the same new records. -/
theorem Batch.replay_of_between (b : Batch) (hm : m.Keyed) (hk : x.Keyed)
    (hx : m.Between (b.replay (.of m)) x) : b.replay (.of x) = b.replay (.of m) := by
  apply Std.ExtTreeMap.ext_getElem?
  intro id
  rw [b.getElem?_replay (.of x), Records.getElem?_of hk]
  rcases hx.folders id with h | h
  · rw [h, ← Records.getElem?_of hm, ← b.getElem?_replay]
  · rw [h, record_under, b.getElem?_replay, b.replayOf_replayOf]

/-- From any state in between, the rest of the difference leads to the same end. -/
theorem Batch.after_of_between (b : Batch) (hm : m.Keyed) (hk : x.Keyed)
    (hx : m.Between (b.replay (.of m)) x) :
    x.after (b.difference x).calls = m.after (b.difference m).calls := by
  have ha : (b.replay (.of m)).Keyed := (Records.keyed_of _).replay b
  have hdx : b.difference x = .between (.of x) (b.replay (.of m)) := by
    rw [difference, b.replay_of_between hm hk hx]
  have hf : (x.after (b.difference x).calls).folders =
      (m.after (b.difference m).calls).folders := by
    apply Std.ExtTreeMap.ext_getElem?
    intro id
    rw [hdx, difference, Difference.folders_after hk ha, Difference.folders_after hm ha,
      under_of_between ha hx]
  have he : (x.after (b.difference x).calls).extras = (m.after (b.difference m).calls).extras := by
    rw [hdx, ((Memory.Between.refl x _).after_calls (Difference.completes_calls hk ha)).extras,
      difference, ((Memory.Between.refl m _).after_calls (Difference.completes_calls hm ha)).extras,
      hx.extras]
  cases hx' : x.after (b.difference x).calls
  cases hm' : m.after (b.difference m).calls
  rw [hx', hm'] at hf he
  congr 1

end

/-- A batch of folders whose writing broke off after any of its calls ends, once it is replayed and
written again, where it would have ended. -/
theorem folders_write_resumes (b : Batch) (s s' : Surroundings Memory) (w w' : World Memory)
    (hb : w.mailbox.Built) (h : w'.mailbox ∈ (write b).stages s w) :
    ((write b).runIn s' w').2.mailbox = ((write b).runIn s w).2.mailbox ∧
      ((write b).runIn s' w').1 = .ok (b.difference w'.mailbox) := by
  have hr := runIn_write b s w
  obtain ⟨k, hk⟩ := Operation.mailbox_of_mem_stages (congrArg Prod.snd hr) h
  have hm := hb.keyed
  have hx : w.mailbox.Between (b.replay (.of w.mailbox)) w'.mailbox := by
    rw [hk]
    refine (Memory.Between.refl _ _).after_calls fun c hc => ?_
    exact Difference.completes_calls hm ((Records.keyed_of _).replay b) c (List.mem_of_mem_take hc)
  have hk' : w'.mailbox.Keyed := by
    rw [hk]
    exact hm.after _
  rw [hr, runIn_write]
  exact ⟨b.after_of_between hm hk' hx, rfl⟩

/-- A batch that renames a folder without a word on its type, and adds one below it. -/
def Batch.renaming : Batch where
  reset := false
  deltas :=
    [.change ⟨"5", some "0", "Posteingang", Option.none⟩, .add ⟨"6", some "5", "Alt", some 12⟩]

theorem renaming_resumes :
    World.inbox.mailbox.Built ∧
      (World.inbox.written ((Batch.renaming.difference World.inbox.mailbox).calls.take 2)).mailbox ∈
        (write .renaming).stages .silent .inbox ∧
      ((write .renaming).runIn .silent (World.inbox.written
        ((Batch.renaming.difference World.inbox.mailbox).calls.take 2))).2.mailbox =
          ((write .renaming).runIn .silent .inbox).2.mailbox :=
  have hb : World.inbox.mailbox.Built :=
    ⟨[.createFolders [⟨"5", "Inbox", .inbox, none⟩]], rfl⟩
  have h : (World.inbox.written
      ((Batch.renaming.difference World.inbox.mailbox).calls.take 2)).mailbox ∈
        (write .renaming).stages .silent .inbox := by decide
  ⟨hb, h, (folders_write_resumes .renaming .silent .silent _ _ hb h).1⟩

end Hierarchy
end MailSync
