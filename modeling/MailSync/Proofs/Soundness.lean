import MailSync.Proofs.Cancelling
import MailSync.Proofs.Composition
import MailSync.Proofs.Hierarchy.Meaning
import MailSync.Proofs.Mailbox.Sound

/-!
# Every reachable mailbox is sound

Whatever a client does with a sound mailbox, it leaves a sound one, however the operation ends and
whatever the server answers. Three parts of an operation put something in. A batch of folders puts
in records that were made with a proper parent, a sync saves a message in the state that the message
states itself, and a move copies a stored message together with its state. So every mailbox that
operations build from an empty one is sound.
-/
namespace MailSync
open Mailbox (Call Memory)
open StoredMessage (Consistent)

variable {α β : Type} {s : Surroundings Memory}

namespace Hierarchy

/-- The records of a sound mailbox have proper parents, and so have those after a batch. -/
theorem Batch.normal_replay {m : Memory} (hm : m.Sound Consistent) (b : Batch) :
    ∀ (id : String) r, (b.replay (.of m))[id]? = some r → r.Normal := by
  have hstored : ∀ (id : String) r, (Records.of m)[id]? = some r → r.Normal := by
    intro id r hr
    rw [Records.getElem?_of hm.keyed] at hr
    obtain ⟨f, hf, rfl⟩ := Option.map_eq_some_iff.mp hr
    exact (hm id f hf).normal
  exact Records.of_replay (P := fun _ r => r.Normal) FolderRecord.normal_under hstored b

/-- A batch is written with orderly calls. -/
theorem Batch.orderly_calls {m : Memory} (hm : m.Sound Consistent) (b : Batch) :
    ∀ c ∈ (b.difference m).calls, c.Orderly Consistent := by
  have hkeyed : (b.replay (.of m)).Keyed := (Records.keyed_of m).replay b
  have hnormal := b.normal_replay hm
  intro c hc
  simp only [difference, Difference.calls, List.mem_cons, List.mem_map] at hc
  rcases hc with rfl | rfl | ⟨⟨old, new⟩, h, rfl⟩
  · trivial
  · intro r hr
    exact hnormal r.id r ((Difference.mem_added hkeyed).mp hr).1
  · unfold changeCall
    split_ifs
    · trivial
    · intro r hr
      obtain rfl := List.mem_singleton.mp hr
      exact hnormal r.id r ((Difference.mem_changed hkeyed).mp h).1

end Hierarchy

namespace Operation

/-- However the operation ends, a mailbox that was sound is sound. -/
def Keeps (s : Surroundings Memory) (α : Type) (op : Operation α) : Prop :=
  ∀ w : World Memory, w.mailbox.Sound Consistent → (op.runIn s w).2.mailbox.Sound Consistent

namespace Keeps

/-- What puts nothing in leaves what is there sound. -/
theorem of_only (hs : s.Solitary) {op : Operation α}
    (h : Only (fun e => ∀ call ∈ e.writes, call.putsIn = false) op) : Keeps s α op := by
  intro w hw
  have hstep (e : Effect) (he : ∀ call ∈ e.writes, call.putsIn = false) (w : World Memory)
      (hw : w.mailbox.Sound Consistent) : (e.perform s w).2.mailbox.Sound Consistent := by
    rw [(e.perform_does hs w).1]
    refine hw.after StoredMessage.ignoresFlags_consistent fun call hc => ?_
    have hcall := he call hc
    cases call with
    | createFolders rs => cases hcall
    | saveMessage folder m state => cases hcall
    | _ => trivial
  exact Program.Only.run
    (R := fun w v => w.mailbox.Sound Consistent → v.mailbox.Sound Consistent)
    (fun _ h => h) (fun _ _ _ h h' hw => h' (h hw)) hstep h w hw

theorem bind {op : Operation α} {f : α → Operation β} (h : Keeps s α op)
    (hf : ∀ a, Keeps s β (f a)) : Keeps s β (op >>= f) := by
  intro w hw
  have hop : (op.runIn s w).2.mailbox.Sound Consistent := h w hw
  rw [runIn_bind]
  rcases hr : op.runIn s w with ⟨e | a, v⟩
  · rw [hr] at hop
    exact hop
  · rw [hr] at hop
    exact hf a v hop

theorem withLock {lock : String} {op : Operation α} (h : Keeps s α op) :
    Keeps s α (withLock lock op) := by
  intro w hw
  cases hl : w.locks.acquire? lock with
  | none =>
    rw [runIn_withLock_held hl]
    exact hw
  | some locks =>
    rw [runIn_withLock_free hl]
    exact h { w with locks } hw

theorem attempt {op : Operation α} (h : Keeps s α op) : Keeps s _ (ofProgram op.run) := by
  intro w hw
  rw [runIn_ofProgram]
  exact h w hw

/-- A handshake touches no folder, unless it wipes the mailbox. -/
theorem provision (hs : s.Solitary) (sess : Session) : Keeps s _ sess.provision := by
  intro w hw
  have hprovision := sess.ensures_provision hs w
  rcases hr : sess.provision.runIn s w with ⟨e | a, v⟩
  · rcases hprovision.error hr with hv | ⟨-, hv⟩
    · exact hv.mailbox.symm ▸ hw
    · exact hv.mailbox.symm ▸ .empty
  · have hfolders := (hprovision.ok hr).mailbox.folders
    intro id f hf
    exact hw id f (hfolders ▸ hf)

theorem rewrite (batch : Hierarchy.Batch) : Keeps s _ (Hierarchy.write batch) := by
  intro w hw
  rw [Hierarchy.runIn_write]
  exact hw.after StoredMessage.ignoresFlags_consistent (batch.orderly_calls hw)

theorem save {folder : String} {m : Message} {state : DownloadState}
    (hm : Consistent ⟨m, state⟩) :
    Keeps s _ (ask (.saveMessage folder m state)) := by
  intro w hw
  rw [runIn_ask_write rfl]
  exact hw.next StoredMessage.ignoresFlags_consistent hm

/-- A copy is saved in the state of the message that it was made from. -/
theorem copy (source target id newId : String) :
    Keeps s _ (Relocation.copy source target id newId) := by
  intro w hw
  have hread : (ask (.message source id)).runIn s w = (.ok (w.mailbox.message? source id), w) :=
    runIn_ask_read rfl s w
  rw [Relocation.copy, runIn_bind_ok hread]
  cases hstored : w.mailbox.message? source id with
  | none => exact hw
  | some stored =>
    have hcopy : Consistent ⟨{ stored.message with id := newId }, stored.state⟩ :=
      (hw.message? hstored).2
    exact save hcopy w hw

end Keeps

theorem withstands_keeps (hs : s.Solitary) (sess : Session) :
    Withstands (.of (Keeps s)) sess where
  pure _ := .of_only hs (.pure _)
  throw _ := .of_only hs (.throw _)
  bind h hf _ := h.bind hf
  withLock _ h _ := h.withLock
  look := .of_only hs (.checkCancelled fun _ h => nomatch h)
  tell _ := .of_only hs (.ofProgram ⟨fun _ h => (nomatch h), fun _ => trivial⟩)
  ask call hcall := .of_only hs (.ask fun _ hc => (Effect.mem_writes hc).1 ▸ hcall)
  save _ m := .save m.consistent_downloadState
  rewrite := .rewrite
  copy := .copy
  freshId := .of_only hs (.ofProgram ⟨fun _ h => (nomatch h), fun _ => trivial⟩)
  post _ _ _ _ := .of_only hs (.ofProgram ⟨fun _ h => (nomatch h), fun _ => trivial⟩)
  provision := .provision hs sess
  attempt h hok herror _ := by
    refine h.attempt.bind fun r => ?_
    cases r with
    | ok a => exact hok a
    | error e => exact herror e (.of_only hs (.throw e))

end Operation

/-- The mailboxes that clients build from an empty one, one operation after another. Each operation
may meet any server and may be cancelled at any time, and it counts however it ends. -/
inductive Mailbox.Memory.Reachable : Memory → Prop
  | empty : Reachable .empty
  | step {s : Surroundings Memory} {sess : Session} {α : Type} {op : Operation α}
      {w : World Memory} :
      Reachable w.mailbox → s.Solitary → Client.Offers sess α op →
        Reachable (op.runIn s w).2.mailbox

/-- Every reachable mailbox is sound. -/
theorem sound_of_reachable {m : Memory} (h : m.Reachable) : m.Sound Consistent := by
  induction h with
  | empty => exact .empty
  | step _ hs hop ih =>
    obtain ⟨n, hkeeps⟩ := (Operation.withstands_keeps hs _).offers hop
    exact hkeeps _ ih

/-- A server with two folders and a message that is cut short. The rest of it does not come when it
is asked for, and then the message is moved. -/
def filing : Script Memory where
  replies := [
    Hierarchy.Response.reply ⟨1, some "1",
      [.add ⟨"5", some "0", "Inbox", some 2⟩, .add ⟨"6", some "5", "Old", some 12⟩]⟩,
    Collection.Response.reply ⟨1, some "1", false, [], []⟩ "5",
    Collection.Response.reply ⟨1, some "2", false,
      [.add { Message.blank "5:1" with mime := some [98], truncated := true }], []⟩ "5",
    .ok ⟨500, []⟩,
    .ok ⟨200, (Relocation.responsesToDocument [⟨"5:1", 3, some "6:1"⟩]).encode⟩]
  meanwhile := []
  id := ""

/-- The world once the folders are listed, the first is synced and its message is moved. -/
def filed : World Memory :=
  let listed := ((Client.refreshFolders .sample).runIn filing.surroundings (.start .empty)).2
  let synced := ((Client.sync .sample "5").runIn filing.surroundings listed).2
  ((Client.moveMessages .sample "5" "6" ["5:1"]).runIn filing.surroundings synced).2

theorem reachable_filed : filed.mailbox.Reachable := by
  have hs : filing.surroundings.Solitary := Script.solitary_surroundings fun _ h => nomatch h
  have hlist : Client.Offers .sample _ (Client.refreshFolders .sample) := .refreshFolders
  have hsync : Client.Offers .sample _ (Client.sync .sample "5") := .sync "5"
  have hlisted := Memory.Reachable.step (w := .start .empty) .empty hs hlist
  have hsynced := Memory.Reachable.step hlisted hs hsync
  exact .step hsynced hs (.moveMessages "5" "6" ["5:1"])

theorem filed_sound :
    filed.mailbox.Reachable ∧ filed.mailbox.Sound Consistent ∧
    filed.mailbox.records = [⟨"5", "Inbox", .inbox, none⟩, ⟨"6", "Old", .regular, some "5"⟩] ∧
    filed.mailbox.message? "5" "5:1" = none ∧
    filed.mailbox.message? "6" "6:1" =
      some ⟨{ Message.blank "6:1" with mime := some [98], truncated := true }, .truncated⟩ :=
  ⟨reachable_filed, sound_of_reachable reachable_filed, rfl, rfl, rfl⟩

end MailSync
