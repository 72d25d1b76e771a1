import MailSync.Proofs.Collection.Landing
import MailSync.Proofs.Collection.Standing

/-!
# What a pass for changes means

Once a pass has ended well and was landed, the messages of the folder are one fold over the changes
of the accepted replies: over the messages that were there, or over none if one of the replies
answered an initial key. The key of the folder is that of the last accepted reply. What was accepted
before a restart plays no part, nor does it matter how the changes were split over the replies.
-/
namespace MailSync.Collection
open Mailbox (Call Memory keyMark)
open Operation (Ensures)

variable {s : Surroundings Memory} {sess : Session} {folder : String}

/-- What a change that the server reports makes of the messages of a folder. -/
def Delta.on (ms : Messages) : Delta → Messages
  | .add m => ms.insert m.id ⟨m, if m.truncated then .truncated else .complete⟩
  | .flag id which state => ms.modify id (.mapFlags (·.set state which))
  | .delete id => ms.erase id

theorem Delta.edit_call (d : Delta) (ms : Messages) : (d.call folder .any).edit ms = d.on ms := by
  cases d <;> rfl

theorem Batch.editAll_calls (b : Batch) (ms : Messages) :
    Mailbox.editAll (b.calls folder .any) ms =
      b.deltas.foldl Delta.on (if b.reset then ∅ else ms) := by
  rw [Mailbox.editAll, calls, List.foldl_append, List.foldl_map]
  simp only [Delta.edit_call]
  split_ifs <;> rfl

/-- What edits and the key of a pass leave in a folder that holds the key the pass began from. -/
theorem Collected.lands {m : Memory} {k} (hk : m.contents folder = some k) {c : Collected}
    (hc : c.stored = m.key? folder) {calls : List Call}
    (hcalls : ∀ call ∈ calls, call.Edits folder) :
    ((m.after calls).after (c.keyCalls folder)).messages? folder =
        some (Mailbox.editAll calls k.2) ∧
      ((m.after calls).after (c.keyCalls folder)).key? folder = c.key := by
  have hm : (m.after calls).contents folder = some (k.1, Mailbox.editAll calls k.2) := by
    rw [Memory.contents_after_of_edits hcalls, hk, Option.map_some]
  rw [Memory.messages?_eq, Memory.key?_eq]
  by_cases hkey : c.key = c.stored
  · rw [Collected.keyCalls, if_neg fun h => h hkey, Memory.after_nil, hm]
    refine ⟨rfl, ?_⟩
    rw [hkey, hc, Memory.key?_eq, hk]
    rfl
  · have hset := Memory.contents_setFolderExtra hm keyMark c.key
    rw [Collected.keyCalls, if_pos hkey, Memory.after_cons, Memory.after_nil, hset]
    exact ⟨rfl, Mailbox.getElem?_place_self ..⟩

/-- What a landing leaves in a folder that holds the key the pass began from. -/
theorem land_lands {w : World Memory} {c : Collected} {k} (hk : w.mailbox.contents folder = some k)
    (hc : c.stored = w.mailbox.key? folder) :
    ∃ n u, (land folder c).runIn s w = (.ok n, u) ∧
      u.mailbox.messages? folder =
        some (c.batch.deltas.foldl Delta.on (if c.batch.reset then ∅ else k.2)) ∧
      u.mailbox.key? folder = c.key := by
  obtain ⟨n, hn⟩ := runIn_land (s := s) (Memory.mem_of_contents hk) c
  have hedits : ∀ call ∈ c.batch.calls folder .any, call.Edits folder := fun _ => Batch.edits_calls
  have hlands := Collected.lands hk hc hedits
  rw [Batch.editAll_calls] at hlands
  exact ⟨n, _, hn, hlands⟩

/-- What a pass collected is its progress at the end. -/
theorem ensures_pass_tracks {errand : Errand} (hs : s.Solitary) (sess : Session) (folder : String)
    (w : World Memory) :
    Ensures (pass sess folder errand) s w
      (fun c v => folder ∈ w.mailbox.folders ∧ ∃ p rounds, c = ⟨p.batch, p.stored, p.key, rounds⟩ ∧
        Tracks sess folder w p v ∧ (standing folder w v).accepted ≠ []) fun _ _ => True := by
  refine ensures_pass_of_collect (fun _ => trivial) fun hf => ?_
  obtain ⟨k, hk⟩ := Memory.contents_of_mem hf
  refine ((carries_tracks hs w hk).ensures hs _ (.start sess folder errand w)).mono ?_
    fun _ _ _ => trivial
  rintro ⟨p, left⟩ v ⟨ht, ha⟩ c
  exact ⟨⟨hf, p, _, rfl, ht.of_eq rfl rfl rfl rfl, ha⟩, trivial⟩

/-- A sync whose pass for changes ends well. Each request of the pass about the folder asked with
the key of the standing before it. Right after the landing the messages are the fold over the
accepted changes, however these are split, and the key is that of the last accepted reply; what came
before a restart plays no part. The sync goes on from there. -/
theorem sync_lands (hs : s.Solitary) {w v : World Memory} {locks : Locks} {c : Collected}
    (hl : w.locks.acquire? (Locks.ofFolder folder) = some locks)
    (h : (pass sess folder .changes).runIn s { w with locks } = (.ok c, v)) :
    ∃ n u ms sent reply, (land folder c).runIn s v = (.ok n, u) ∧
      (syncFolder sess folder).runIn s w = (((finish sess folder c n).runIn s u).1,
        { ((finish sess folder c n).runIn s u).2 with
          locks := ((finish sess folder c n).runIn s u).2.locks.release (Locks.ofFolder folder) }) ∧
      (dialogue folder (w.mailbox.key? folder)).Asks (Follows sess.settings folder)
        (w.since v) ∧
      w.mailbox.messages? folder = some ms ∧
      (∀ parts : List (List Delta),
        parts.flatten = (standing folder w v).gathered (changes folder) →
        u.mailbox.messages? folder = some (parts.foldl (fun ms ds => ds.foldl Delta.on ms)
          (if (standing folder w v).isFresh then ∅ else ms))) ∧
      (standing folder w v).accepted.getLast? = some (sent, reply) ∧
      u.mailbox.key? folder = some (keyAfter folder sent reply) ∧
      ∀ xs x ys, w.since v = xs ++ x :: ys →
        (dialogue folder (w.mailbox.key? folder)).Restarts
          ((dialogue folder (w.mailbox.key? folder)).along xs) x →
        ∃ key, standing folder w v =
          ys.foldl (dialogue folder (w.mailbox.key? folder)).after (.start key) := by
  obtain ⟨hf, p, rounds, rfl, ht, ha⟩ := (ensures_pass_tracks hs sess folder { w with locks }).ok h
  -- The pass began with the lock of the folder taken, which is not tracked.
  replace ht : Tracks sess folder w p v := ht.of_eq rfl rfl rfl rfl
  obtain ⟨k, hk⟩ := Memory.contents_of_mem hf
  have hv := ht.contents.trans hk
  have hstored : p.stored = v.mailbox.key? folder := by
    rw [ht.stored, Memory.key?_eq, Memory.key?_eq, ht.contents]
  obtain ⟨n, u, hn, hms, hkey⟩ := land_lands (s := s) (c := ⟨p.batch, p.stored, p.key, rounds⟩)
    hv hstored
  obtain ⟨⟨sent, reply⟩, hlast⟩ := Option.ne_none_iff_exists'.mp
    (mt List.getLast?_eq_none_iff.mp ha)
  refine ⟨n, u, k.2, sent, reply, hn, ?_, ht.asks, ?_, ?_, hlast, ?_, ?_⟩
  · rw [syncFolder_eq, Operation.runIn_withLock_free hl, Operation.runIn_bind_ok h,
      Operation.runIn_bind_ok hn]
  · rw [Memory.messages?_eq, hk, Option.map_some]
  · intro parts hparts
    rw [hms, ht.batchOf, ← List.foldl_flatten, hparts]
    rfl
  · exact hkey.trans (ht.key.trans (keyed_standing folder w v _ hlast))
  · intro xs x ys hx hr
    obtain ⟨key, hkey⟩ := hr.after
    exact ⟨key, by rw [standing, hx, Dialogue.along_append, List.foldl_cons, hkey]⟩

/-- A server that takes a key back after its first changes, and then reports others. -/
def takingBack : Script Memory where
  replies := [⟨1, some "1", false, [], []⟩, ⟨1, some "2", true, [.add (.blank "5:1")], []⟩,
      ⟨3, none, false, [], []⟩, ⟨1, some "3", false, [], []⟩,
      ⟨1, some "4", false, [.add (.blank "5:2"), .flag "5:2" .seen true], []⟩].map
    fun r : Response => r.reply "5"
  meanwhile := []
  id := ""

theorem taken_back_lands : ∃ c v n u,
    (pass .sample "5" .changes).runIn takingBack.surroundings
        { World.inbox with locks := ⟨World.inbox.locks.held.insert (Locks.ofFolder "5")⟩ } =
      (.ok c, v) ∧
    (land "5" c).runIn takingBack.surroundings v = (.ok n, u) ∧
    u.mailbox.messages? "5" =
      some ([Delta.add (.blank "5:2"), .flag "5:2" .seen true].foldl Delta.on ∅) ∧
    u.mailbox.key? "5" = some "4" := by
  have hs : takingBack.surroundings.Solitary :=
    Script.solitary_surroundings fun entry h => nomatch h
  have hp : ((pass .sample "5" .changes).runIn takingBack.surroundings
        { World.inbox with locks := ⟨World.inbox.locks.held.insert (Locks.ofFolder "5")⟩ }).1 =
      .ok ⟨⟨true, [.add (.blank "5:2"), .flag "5:2" .seen true], []⟩, none, some "4", 5⟩ := rfl
  have hl : World.inbox.locks.acquire? (Locks.ofFolder "5") =
      some ⟨World.inbox.locks.held.insert (Locks.ofFolder "5")⟩ := rfl
  obtain ⟨n, u, ms, sent, reply, hn, -, -, -, hms, hlast, hkey, -⟩ :=
    sync_lands hs hl (Prod.ext hp rfl)
  refine ⟨_, _, n, u, Prod.ext hp rfl, hn, ?_, hkey.trans ?_⟩
  · exact hms [[.add (.blank "5:2")], [.flag "5:2" .seen true]] rfl
  · obtain ⟨rfl, rfl⟩ := Prod.mk.inj (Option.some.inj (hlast.symm.trans rfl))
    rfl

end MailSync.Collection
