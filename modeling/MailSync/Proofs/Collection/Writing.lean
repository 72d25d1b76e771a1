import MailSync.Collection.Apply
import MailSync.Proofs.Mailbox.Folders
import MailSync.Proofs.Overwrite

/-!
# Writing a batch to a folder, again and again

A batch is written by calls that each edit the messages of one folder. An edit of one message
forgets it, or sets some of its flags where it is there: nothing else depends on what was stored.
So a batch that was broken off by a crash and is written again from its start ends where it would
have ended, whatever it had done before. Where the folder is not there, nothing is ever changed.
-/
namespace MailSync
open Mailbox (Call Memory)

/-- A change of flags that fixes some of them and keeps the others. -/
def Flags.Fixes (p : Flags → Flags) : Prop :=
  ∀ f, (∃ b, ∀ fs : Flags, (p fs).has f = b) ∨ ∀ fs : Flags, (p fs).has f = fs.has f

theorem Flags.fixes_set (flag : Flag) (state : Bool) : Flags.Fixes (·.set state flag) := by
  intro f
  by_cases h : flag = f ∧ Flags.keeps flag
  · exact .inl ⟨state, fun fs => by rw [Flags.has_set, if_pos h]⟩
  · exact .inr fun fs => by rw [Flags.has_set, if_neg h]

theorem Flags.overwriting_fixes : Overwriting Flags.Fixes where
  id _ := .inr fun _ => rfl
  comp {p q} hp hq f := by
    rcases hq f with ⟨b, hb⟩ | hq
    · exact .inl ⟨b, fun fs => hb (p fs)⟩
    · rcases hp f with ⟨b, hb⟩ | hp
      · exact .inl ⟨b, fun fs => (hq (p fs)).trans (hb fs)⟩
      · exact .inr fun fs => (hq (p fs)).trans (hp fs)
  idem {p} hp fs := by
    apply Flags.ext_has
    intro f
    rcases hp f with ⟨b, hb⟩ | hk
    · rw [hb, hb]
    · exact hk (p fs)

namespace StoredMessage

def mapFlags (p : Flags → Flags) (m : StoredMessage) : StoredMessage :=
  { m with message := { m.message with flags := p m.message.flags } }

/-- A change of a stored message that fixes some of its flags. -/
def Fixes (q : StoredMessage → StoredMessage) : Prop := ∃ p, Flags.Fixes p ∧ q = mapFlags p

theorem overwriting_fixes : Overwriting Fixes where
  id := ⟨id, Flags.overwriting_fixes.id, rfl⟩
  comp := by
    rintro _ _ ⟨p, hp, rfl⟩ ⟨q, hq, rfl⟩
    exact ⟨q ∘ p, Flags.overwriting_fixes.comp hp hq, rfl⟩
  idem := by
    rintro _ ⟨p, hp, rfl⟩ m
    simp only [mapFlags, Flags.overwriting_fixes.idem hp]

end StoredMessage

abbrev Messages := Std.ExtTreeMap String StoredMessage

namespace Mailbox

/-- The calls that only touch the messages of a folder. -/
inductive Call.Edits (folder : String) : Call → Prop
  | save (message : Message) (state : DownloadState) :
      Edits folder (.saveMessage folder message state)
  | destroy (ids : List String) : Edits folder (.destroyMessages folder ids)
  | flag (id : String) (flag : Flag) (state : Bool) : Edits folder (.setFlag folder id flag state)
  | clear : Edits folder (.removeAllMessages folder)

theorem Call.Edits.isWrite {folder : String} {call : Call} (h : call.Edits folder) :
    call.isWrite = true := by
  cases h <;> rfl

/-- What a call makes of the messages of its folder. -/
def Call.edit (ms : Messages) : Call → Messages
  | .saveMessage _ msg state => ms.insert msg.id ⟨msg, state⟩
  | .destroyMessages _ ids => ids.foldl Std.ExtTreeMap.erase ms
  | .setFlag _ id flag state => ms.modify id (.mapFlags (·.set state flag))
  | .removeAllMessages _ => ∅
  | _ => ms

/-- What a call makes of one message of its folder. -/
def Call.editOf (id : String) (call : Call) (x : Option StoredMessage) : Option StoredMessage :=
  match call with
  | .saveMessage _ msg state => if msg.id = id then some ⟨msg, state⟩ else x
  | .destroyMessages _ ids => if id ∈ ids then none else x
  | .setFlag _ id' flag state => if id' = id then x.map (.mapFlags (·.set state flag)) else x
  | .removeAllMessages _ => none
  | _ => x

theorem Call.getElem?_edit (call : Call) (ms : Messages) (id : String) :
    (call.edit ms)[id]? = call.editOf id ms[id]? := by
  cases call with
  | saveMessage folder msg state => simp [edit, editOf, Std.ExtTreeMap.getElem?_insert]
  | destroyMessages folder ids => exact getElem?_foldl_erase ids ms id
  | setFlag folder id' flag state =>
    simp only [edit, editOf, Std.ExtTreeMap.getElem?_modify, Std.compare_eq_iff_eq]
    by_cases h : id' = id
    · rw [if_pos h, if_pos h, h]
    · rw [if_neg h, if_neg h]
  | removeAllMessages folder => exact Std.ExtTreeMap.getElem?_empty
  | _ => rfl

/-- An edit either passes a message by, or settles it. -/
theorem Call.settles_editOf (id : String) (call : Call) :
    Settles StoredMessage.Fixes fun x => call.editOf id x := by
  have keeps {g} := Settles.of_keeps (g := g) StoredMessage.overwriting_fixes
  cases call with
  | saveMessage folder msg state =>
    by_cases h : msg.id = id
    · exact .inl ⟨some ⟨msg, state⟩, fun x => if_pos h⟩
    · exact keeps fun x => if_neg h
  | destroyMessages folder ids =>
    by_cases h : id ∈ ids
    · exact .inl ⟨none, fun x => if_pos h⟩
    · exact keeps fun x => if_neg h
  | setFlag folder id' flag state =>
    by_cases h : id' = id
    · exact .inr ⟨_, ⟨_, Flags.fixes_set flag state, rfl⟩, fun x => if_pos h⟩
    · exact keeps fun x => if_neg h
  | removeAllMessages folder => exact .inl ⟨none, fun x => rfl⟩
  | _ => exact keeps fun x => rfl

/-- The messages of a folder after calls in a row. -/
def editAll (calls : List Call) (ms : Messages) : Messages := calls.foldl (fun ms c => c.edit ms) ms

theorem getElem?_editAll (calls : List Call) (ms : Messages) (id : String) :
    (editAll calls ms)[id]? = calls.foldl (fun x c => c.editOf id x) ms[id]? := by
  induction calls generalizing ms with
  | nil => rfl
  | cons c calls ih =>
    change (editAll calls (c.edit ms))[id]? = _
    rw [ih, c.getElem?_edit, List.foldl_cons]

/-- Edits that were broken off and are made again. -/
theorem editAll_editAll_take (calls : List Call) (k : Nat) (ms : Messages) :
    editAll calls (editAll (calls.take k) ms) = editAll calls ms := by
  apply Std.ExtTreeMap.ext_getElem?
  intro id
  simp only [getElem?_editAll]
  exact Settles.foldl_foldl_take StoredMessage.overwriting_fixes
    (fun c _ => c.settles_editOf id) k ms[id]?

namespace Memory

/-- An edit changes the messages of its folder and nothing else. -/
theorem next_of_edits {folder : String} {call : Call} (h : call.Edits folder) (m : Memory) :
    m.next call = m.modify folder fun f => { f with messages := call.edit f.messages } := by
  cases h with
  | save message state =>
    by_cases hm : folder ∈ m.folders
    · simp only [next, answer, require, if_pos hm]; rfl
    · rw [modify_of_not_mem hm]
      simp only [next, answer, require, if_neg hm]
  | destroy ids => rfl
  | flag id flag state => rfl
  | clear => rfl

theorem after_of_edits {folder : String} {calls : List Call} (h : ∀ c ∈ calls, c.Edits folder)
    (m : Memory) :
    m.after calls = m.modify folder fun f => { f with messages := editAll calls f.messages } := by
  induction calls generalizing m with
  | nil => exact (m.modify_id folder).symm
  | cons c calls ih =>
    rw [after_cons, ih fun d hd => h d (List.mem_cons_of_mem c hd),
      next_of_edits (h c List.mem_cons_self), modify_modify]
    rfl

theorem contents_after_of_edits {folder : String} {calls : List Call}
    (h : ∀ c ∈ calls, c.Edits folder) (m : Memory) :
    (m.after calls).contents folder =
      (m.contents folder).map fun k => (k.1, editAll calls k.2) := by
  rw [after_of_edits h, contents, getElem?_modify, if_pos rfl, contents, Option.map_map,
    Option.map_map]
  rfl

/-- Calls that edit a folder, seen from one of its messages. -/
theorem message?_after_of_edits {folder : String} {calls : List Call}
    (h : ∀ c ∈ calls, c.Edits folder) (m : Memory) (id : String) :
    (m.after calls).message? folder id =
      (m.contents folder).bind fun k => calls.foldl (fun x c => c.editOf id x) k.2[id]? := by
  rw [message?_eq, contents_after_of_edits h, Option.bind_map]
  simp only [Function.comp_def, getElem?_editAll]

/-- In a folder that is there a message changes as the calls want it. -/
theorem message?_after_of_mem {folder : String} {calls : List Call}
    (h : ∀ c ∈ calls, c.Edits folder) {m : Memory} (hf : folder ∈ m.folders) (id : String) :
    (m.after calls).message? folder id =
      calls.foldl (fun x c => c.editOf id x) (m.message? folder id) := by
  obtain ⟨k, hk⟩ := contents_of_mem hf
  rw [message?_after_of_edits h, message?_eq, hk, Option.bind_some, Option.bind_some]

theorem message?_next_destroy (m : Memory) (folder : String) (ids : List String) (id : String) :
    (m.next (.destroyMessages folder ids)).message? folder id =
      if id ∈ ids then none else m.message? folder id := by
  have hedits : ∀ c ∈ [Call.destroyMessages folder ids], c.Edits folder :=
    fun c hc => List.mem_singleton.mp hc ▸ .destroy ids
  rw [← after_nil (m.next _), ← after_cons, message?_after_of_edits hedits, message?_eq]
  simp only [List.foldl_cons, List.foldl_nil, Call.editOf]
  split_ifs
  · exact Option.bind_fun_none _
  · rfl

/-- Another folder is left alone. -/
theorem getElem?_after_of_edits_of_ne {folder other : String} {calls : List Call}
    (h : ∀ c ∈ calls, c.Edits folder) (hne : folder ≠ other) (m : Memory) :
    (m.after calls).folders[other]? = m.folders[other]? := by
  rw [after_of_edits h, getElem?_modify, if_neg hne]

theorem message?_after_of_edits_of_ne {folder other : String} {calls : List Call}
    (h : ∀ c ∈ calls, c.Edits folder) (hne : folder ≠ other) (m : Memory) (id : String) :
    (m.after calls).message? other id = m.message? other id := by
  rw [message?, getElem?_after_of_edits_of_ne h hne, message?]

/-- Edits of a folder that were broken off and are made again. -/
theorem after_after_take_of_edits {folder : String} {calls : List Call}
    (h : ∀ c ∈ calls, c.Edits folder) (k : Nat) (m : Memory) :
    (m.after (calls.take k)).after calls = m.after calls := by
  rw [after_of_edits h, after_of_edits h, after_of_edits fun c hc => h c (List.mem_of_mem_take hc),
    modify_modify]
  simp only [Function.comp_def, editAll_editAll_take]

theorem mem_next_of_edits {folder : String} {call : Call} (h : call.Edits folder) {m : Memory}
    {id : String} : id ∈ (m.next call).folders ↔ id ∈ m.folders := by
  rw [next_of_edits h]
  exact Std.ExtTreeMap.mem_modify

theorem mem_after_of_edits {folder : String} {calls : List Call}
    (h : ∀ c ∈ calls, c.Edits folder) {m : Memory} {id : String} :
    id ∈ (m.after calls).folders ↔ id ∈ m.folders := by
  rw [after_of_edits h]
  exact Std.ExtTreeMap.mem_modify

/-- An edit of a folder that is there succeeds. -/
theorem answer_of_edits {folder : String} {call : Call} (h : call.Edits folder) {m : Memory}
    (hm : folder ∈ m.folders) : ∃ a, (answer call m).1 = .ok a := by
  cases h with
  | save message state => exact ⟨(), by simp only [answer, require, if_pos hm]⟩
  | destroy ids => exact ⟨_, rfl⟩
  | flag id flag state => exact ⟨_, rfl⟩
  | clear => exact ⟨_, rfl⟩

theorem accepts_of_edits {folder : String} {calls : List Call} (h : ∀ c ∈ calls, c.Edits folder)
    {m : Memory} (hm : folder ∈ m.folders) : m.Accepts calls := by
  induction calls generalizing m with
  | nil => trivial
  | cons c calls ih =>
    have hc := h c List.mem_cons_self
    exact ⟨answer_of_edits hc hm,
      ih (fun d hd => h d (List.mem_cons_of_mem c hd)) ((mem_next_of_edits hc).mpr hm)⟩

end Memory
end Mailbox

namespace Collection
open Operation (Writes)

/-- The calls that write a batch. -/
def Batch.calls (folder : String) (bodies : Bodies) (b : Batch) : List Call :=
  (if b.reset then [.removeAllMessages folder] else []) ++ b.deltas.map (Delta.call folder bodies)

variable {folder : String} {bodies : Bodies}

theorem Delta.edits_call (d : Delta) : (d.call folder bodies).Edits folder := by
  cases d with
  | add m =>
    simp only [call]
    split
    · exact .destroy _
    · exact .save _ _
  | flag id which state => exact .flag _ _ _
  | delete id => exact .destroy _

theorem Batch.edits_calls {b : Batch} {c : Call} (h : c ∈ b.calls folder bodies) :
    c.Edits folder := by
  rcases List.mem_append.mp h with h | h
  · split at h
    · rw [List.mem_singleton.mp h]
      exact .clear
    · cases h
  · obtain ⟨d, -, rfl⟩ := List.mem_map.mp h
    exact d.edits_call

/-- To write a change is to make its call. -/
theorem Delta.write_eq (folder : String) (bodies : Bodies) (d : Delta) :
    ∃ changed, d.write folder bodies = changed <$> Operation.ask (d.call folder bodies) := by
  have hdiscard {c : Call} : (do discard (Operation.ask c); pure false : Operation Bool) =
      (fun _ => false) <$> Operation.ask c := by
    rw [discard, LawfulFunctor.map_const, Function.comp_apply, bind_map_left, bind_pure_comp]
  cases d with
  | flag _ which state => exact ⟨id, (id_map _).symm⟩
  | add m => exact ⟨_, hdiscard⟩
  | delete id => exact ⟨_, hdiscard⟩

theorem writes_writeAll (ds : List Delta) (s : Surroundings Memory) (w : World Memory) :
    Writes (writeAll folder bodies ds) s w (ds.map (Delta.call folder bodies)) := by
  induction ds generalizing w with
  | nil => exact .pure 0
  | cons d ds ih =>
    obtain ⟨changed, hd⟩ := d.write_eq folder bodies
    rw [writeAll, hd, bind_map_left]
    refine .ask_bind d.edits_call.isWrite fun a _ => ?_
    rw [bind_pure_comp]
    exact (ih _).map _

/-- To write a batch is to make its calls. -/
theorem Batch.writes_write (b : Batch) (s : Surroundings Memory) (w : World Memory) :
    Writes (b.write folder bodies) s w (b.calls folder bodies) := by
  unfold write calls
  by_cases hr : b.reset
  · rw [if_pos hr, if_pos hr]
    exact .ask_bind rfl fun _ _ => writes_writeAll ..
  · rw [if_neg hr, if_neg hr]
    exact writes_writeAll ..

/-- A batch is written in full to a folder that is there. -/
theorem Batch.runIn_write (bodies : Bodies) (b : Batch) (s : Surroundings Memory) {w : World Memory}
    (h : folder ∈ w.mailbox.folders) :
    ∃ n, (b.write folder bodies).runIn s w = (.ok n, w.written (b.calls folder bodies)) :=
  (b.writes_write s w).runIn_eq (Memory.accepts_of_edits (fun _ => edits_calls) h)

/-- Where the folder is not there the first message that is saved fails, and nothing was
written until then. -/
theorem Batch.mailbox_write (b : Batch) (s : Surroundings Memory) (w : World Memory) :
    ((b.write folder bodies).runIn s w).2.mailbox =
      w.mailbox.after (b.calls folder bodies) := by
  by_cases h : folder ∈ w.mailbox.folders
  · obtain ⟨n, hn⟩ := b.runIn_write bodies s h
    rw [hn, World.written]
  · -- The write may break off, but neither what it did nor what it left undone changes anything.
    obtain ⟨n, hn⟩ := (b.writes_write s w).run
    rw [hn, World.written, Memory.after_of_edits fun _ hc => edits_calls (List.mem_of_mem_take hc),
      Memory.after_of_edits fun _ => edits_calls, Memory.modify_of_not_mem h,
      Memory.modify_of_not_mem h]

/-- A batch whose writing broke off after any of its calls ends, once it is written again from
its start, where it would have ended: with the same messages, flags and download states. -/
theorem Batch.write_resumes (folder : String) (bodies : Bodies) (b : Batch)
    (s s' : Surroundings Memory) (w w' : World Memory)
    (h : w'.mailbox ∈ (b.write folder bodies).stages s w) :
    ((b.write folder bodies).runIn s' w').2.mailbox =
      ((b.write folder bodies).runIn s w).2.mailbox ∧
    (folder ∈ w.mailbox.folders → ∃ n, ((b.write folder bodies).runIn s' w').1 = .ok n) := by
  obtain ⟨k, hk⟩ := (b.writes_write s w).mailbox_of_mem_stages h
  constructor
  · rw [b.mailbox_write, b.mailbox_write, hk, Memory.after_after_take_of_edits fun _ => edits_calls]
  · intro hf
    have hf' : folder ∈ w'.mailbox.folders := by
      rw [hk]
      exact (Memory.mem_after_of_edits fun _ hc => edits_calls (List.mem_of_mem_take hc)).mpr hf
    obtain ⟨n, hn⟩ := b.runIn_write bodies s' hf'
    exact ⟨n, congrArg Prod.fst hn⟩

/-- A batch that restarts a folder and changes one of the messages that it brings. -/
def Batch.restarting : Batch where
  reset := true
  deltas := [.add (.blank "5:1"), .flag "5:1" .seen true, .delete "5:2", .add (.blank "5:2")]
  responses := []

theorem Batch.restarting_resumes :
    (World.inbox.written ((restarting.calls "5" .any).take 2)).mailbox ∈
        (restarting.write "5" .any).stages .silent .inbox ∧
      ((restarting.write "5" .any).runIn .silent
        (World.inbox.written ((restarting.calls "5" .any).take 2))).2.mailbox =
          ((restarting.write "5" .any).runIn .silent .inbox).2.mailbox :=
  have h : (World.inbox.written ((restarting.calls "5" .any).take 2)).mailbox ∈
      (restarting.write "5" .any).stages .silent .inbox := by decide
  ⟨h, (write_resumes "5" .any restarting .silent .silent _ _ h).1⟩

end Collection
end MailSync
