import MailSync.Proofs.Dialogue
import MailSync.Proofs.Hierarchy.Pass

/-!
# What a pass over the hierarchy means

Once a pass has ended well, the records of the folders are one fold over the changes of the accepted
replies: over the records that were stored, or over none if one of the replies answered an initial
key. Which calls the difference was written with does not show: a folder that is there before and
after holds what it held, also across a restart, and a new one holds nothing.
-/
namespace MailSync.Hierarchy
open Mailbox (Memory hierarchyKeyMark)
open Operation (Ensures)

variable {s : Surroundings Memory} {sess : Session}

/-- The response in a reply. -/
def response? (result : Except TransportError Reply) : Option Response :=
  match Exchange.documentOf "FolderSync" result with
  | .ok (some root) => (Response.ofDocument root).toOption
  | _ => none

/-- The changes that a reply brings. -/
def changes (result : Except TransportError Reply) : List Delta :=
  ((response? result).map (·.deltas)).getD []

/-- The key that a reply brings. -/
def keyOf? (result : Except TransportError Reply) : Option String :=
  (response? result).bind (·.key)

/-- What an accepted round holds, in terms of its reply. -/
theorem of_outcome {fresh : Bool} {result : Except TransportError Reply} {round : Round Batch}
    (h : outcome fresh result = .ok round) :
    some round.key = keyOf? result ∧ round.batch = ⟨fresh, changes result⟩ := by
  unfold outcome at h
  unfold keyOf? changes response?
  cases hd : Exchange.documentOf "FolderSync" result with
  | error f =>
    rw [hd] at h
    cases h
  | ok document =>
    rw [hd] at h
    cases document with
    | none => cases h
    | some root =>
      change (Exchange.ofDocument (Response.ofDocument root) >>= roundOf fresh) = .ok round at h
      cases hr : Response.ofDocument root with
      | error e =>
        rw [hr] at h
        cases h
      | ok r =>
        rw [hr] at h
        change roundOf fresh r = .ok round at h
        simp only [hr]
        simp only [roundOf] at h
        split_ifs at h
        cases hk : r.key with
        | none =>
          rw [hk] at h
          cases h
        | some key =>
          rw [hk] at h
          obtain rfl := Except.ok.inj h
          exact ⟨hk.symm, rfl⟩

/-- The dialogue of a pass over the hierarchy. A refused key has it begin afresh. -/
def dialogue (stored : Option String) : Dialogue Batch where
  command := "FolderSync"
  stored
  outcome sent := outcome (SyncKey.isInitial sent)
  restart v := if v = .keyInvalid then some none else none
  batch st := ⟨st.isFresh, st.gathered changes⟩
  extend := Batch.extend
  batch_accept ho := by
    rw [Standing.isFresh_accept, Standing.gathered_accept, (of_outcome ho).2]
    rfl

/-- The standing of the hierarchy after the exchanges between two worlds. -/
def standing (w v : World Memory) : Standing :=
  (dialogue w.mailbox.extras[hierarchyKeyMark]?).along (w.since v)

/-- The progress of a pass is where its exchanges have left the hierarchy, which is still stored as
it was when the pass began. -/
structure Tracks (sess : Session) (w : World Memory) (p : Progress) (v : World Memory) : Prop
    extends Dialogue.Tracks (dialogue w.mailbox.extras[hierarchyKeyMark]?)
      (fun st q => q = wire sess.settings st.key) w p.key p.batch v where
  held : w.Held v

namespace Tracks
variable {w v u : World Memory} {p : Progress}

/-- Neither the locks nor a cancellation are tracked. -/
theorem of_eq (h : Tracks sess w p v) {v' : World Memory} (hm : v'.mailbox = v.mailbox)
    (hh : v'.history = v.history) : Tracks sess w p v' where
  toTracks := h.toTracks.of_eq rfl hh
  held := ⟨hh ▸ h.held.history, hm ▸ h.held.mailbox⟩

/-- Whatever runs in between, if it asks nothing about the hierarchy and leaves it as it was. -/
theorem quiet (h : Tracks sess w p v) (hq : v.Quiet "FolderSync" u) (hu : v.Held u) :
    Tracks sess w p u where
  toTracks := h.toTracks.quiet hq
  held := h.held.trans hu

end Tracks

theorem carries_tracks (hs : s.Solitary) (sess : Session) (w : World Memory) :
    (rounds sess).Carries s sess (Tracks sess w)
      (fun p v => Tracks sess w p v ∧ (standing w v).accepted ≠ []) fun _ _ => True := by
  refine { look := fun c h => h.of_eq rfl rfl, stop := fun _ => trivial, limit := fun _ => trivial
           drop := fun _ _ _ => trivial, step := fun {p v} r c h => ?_ }
  have hheld : w.Held ((rounds sess).replied sess p v r c) :=
    h.held.trans (World.Still.exchanged ..).held
  have hasks : wire sess.settings p.key = wire sess.settings (standing w v).key :=
    congrArg (wire sess.settings) h.key
  have htracks {q : Progress} (hl : (dialogue w.mailbox.extras[hierarchyKeyMark]?).Leads p.key
      p.batch (outcome (SyncKey.isInitial p.key) r) q.key q.batch) :
      Tracks sess w q ((rounds sess).replied sess p v r c) :=
    ⟨h.toTracks.exchanged rfl hasks hl _ c, hheld⟩
  have hleads := p.leads_next sess.mayProvision (outcome (SyncKey.isInitial p.key) r)
  rw [rounds_step]
  generalize ho : outcome (SyncKey.isInitial p.key) r = o at hleads htracks ⊢
  generalize p.next sess.mayProvision o = next at hleads ⊢
  cases hleads with
  | more => exact htracks (.accept _)
  | done => exact ⟨htracks (.accept _), h.toTracks.accepted_ne_nil rfl ho _ c⟩
  | restart verdict => exact htracks (.restart (if_pos verdict))
  | provision verdict =>
    have hq : Tracks sess w { p with provisioned := true } _ :=
      htracks (.stay (if_neg (by rw [verdict]; decide)))
    have hprovision := (sess.ensures_provision hs _).and_always
      (sess.quiet_provision hs "FolderSync" (by decide) ((rounds sess).replied sess p v r c))
    refine Step.ensures_after (hprovision.mono (fun _ u hu => ?_) fun _ _ _ => trivial)
    exact hq.quiet hu.2 hu.1
  | fail f => trivial

/-- The key of a mailbox that a pass has landed in. -/
theorem hierarchyKey_landed {w v : World Memory} (hb : w.mailbox.Keyed) (hv : w.Held v)
    (p : Progress) :
    (landed w.mailbox.extras[hierarchyKeyMark]? p v).mailbox.extras[hierarchyKeyMark]? = p.key := by
  unfold landed
  split_ifs with hk
  · exact Mailbox.getElem?_place_self ..
  · have hm : v.mailbox.Keyed := by
      intro id f hf
      rw [hv.mailbox.folders] at hf
      exact hb id f hf
    have hbetween := (Memory.Between.refl v.mailbox (p.batch.replay (.of v.mailbox))).after_calls
      (Difference.completes_calls hm ((Records.keyed_of _).replay p.batch))
    change (v.mailbox.after (p.batch.difference v.mailbox).calls).extras[hierarchyKeyMark]? = _
    rw [Batch.difference, hbetween.extras, hv.mailbox.extras _ (by decide), Decidable.not_not.mp hk]

/-- Once a pass is landed every folder is the stored one under its new record. -/
theorem folders_landed {w v : World Memory} (hb : w.mailbox.Keyed) (hv : w.Held v)
    (stored : Option String) (p : Progress) (id : String) :
    (landed stored p v).mailbox.folders[id]? =
      w.mailbox.under (p.batch.replay (.of w.mailbox)) id := by
  have hf := hv.mailbox.folders
  have hm : v.mailbox.Keyed := by
    intro id f hg
    rw [hf] at hg
    exact hb id f hg
  have hof : Records.of v.mailbox = .of w.mailbox := by
    rw [Records.of, Memory.records, hf, Records.of, Memory.records]
  rw [(landed_eq stored p v).1, Batch.difference,
    Difference.folders_after hm ((Records.keyed_of _).replay p.batch), Memory.under, hof, hf,
    Memory.under]

/-- A folder under its new record holds what the stored one held, or nothing if there was none. -/
theorem contents_of_under {m v : Memory} {after : Records} {id : String}
    (h : v.folders[id]? = m.under after id) (hid : id ∈ v.folders) :
    v.contents id = some ((m.contents id).getD (∅, ∅)) := by
  obtain ⟨f, hf⟩ := Option.isSome_iff_exists.mp (Std.ExtTreeMap.mem_iff_isSome_getElem?.mp hid)
  rw [Memory.contents, hf, Memory.contents, Option.map_some]
  obtain ⟨r, -, rfl⟩ := Option.map_eq_some_iff.mp (h.symm.trans hf)
  cases m.folders[id]? <;> rfl

/-- What a pass leaves is its progress at the end, landed. -/
theorem ensures_pass_tracks (hs : s.Solitary) (sess : Session) (w : World Memory) :
    Ensures (pass sess) s w
      (fun _ v => ∃ p u, Tracks sess w p u ∧ (standing w u).accepted ≠ [] ∧
        w.since v = w.since u ∧
        v.mailbox = (landed w.mailbox.extras[hierarchyKeyMark]? p u).mailbox) fun _ _ => True := by
  refine ensures_pass_of_collect trivial fun locks => ?_
  have hstart : Tracks sess w (.start w.mailbox.extras[hierarchyKeyMark]?) { w with locks } :=
    ⟨(Dialogue.Tracks.start (dialogue _) _ w).of_eq rfl rfl, (World.Held.refl w).locks locks⟩
  have hcollect := (carries_tracks hs sess w).ensures hs sess.maxRounds hstart
  refine hcollect.mono ?_ fun _ _ _ _ => trivial
  rintro ⟨p, left⟩ v ⟨ht, ha⟩ c l
  refine ⟨⟨p, { v with cancelled := c }, ht.of_eq rfl rfl, ha, ?_, rfl⟩, trivial⟩
  have he := (landed_eq w.mailbox.extras[hierarchyKeyMark]? p { v with cancelled := c }).2.2
  exact congrArg (List.drop w.exchanges.length) he

/-- A pass over the hierarchy that ends well, over a mailbox that its own operations have built.
Each request of the pass asked with the key of the standing before it. Afterwards the records are
the fold over the accepted changes; a folder that was there and still is holds what it held, one
that has gone holds nothing any more and a new one nothing yet; and the key is that of the last
accepted reply. -/
theorem pass_lands (hs : s.Solitary) {w w' : World Memory} {stats : Stats}
    (hb : w.mailbox.Built) (h : (pass sess).runIn s w = (.ok stats, w')) :
    (dialogue w.mailbox.extras[hierarchyKeyMark]?).Asks (fun st q => q = wire sess.settings st.key)
        (w.since w') ∧
      (∀ id : String, w'.mailbox.folders[id]?.map (·.record) = (((standing w w').gathered
        changes).foldl Delta.apply (if (standing w w').isFresh then ∅ else .of w.mailbox))[id]?) ∧
      (∀ id ∈ w.mailbox.folders,
        (id ∈ w'.mailbox.folders → w'.mailbox.contents id = w.mailbox.contents id) ∧
          (id ∉ w'.mailbox.folders → w'.mailbox.contents id = none)) ∧
      (∀ id ∈ w'.mailbox.folders, id ∉ w.mailbox.folders →
        w'.mailbox.contents id = some (∅, ∅)) ∧
      ∃ sent reply key, (standing w w').accepted.getLast? = some (sent, reply) ∧
        keyOf? reply = some key ∧ w'.mailbox.extras[hierarchyKeyMark]? = some key := by
  obtain ⟨p, u, ht, ha, hsince, hm⟩ := (ensures_pass_tracks hs sess w).ok h
  have hst : standing w w' = standing w u := by rw [standing, hsince, standing]
  have hf (id : String) : w'.mailbox.folders[id]? =
      w.mailbox.under (p.batch.replay (.of w.mailbox)) id := by
    rw [hm]
    exact folders_landed hb.keyed ht.held _ p id
  refine ⟨hsince ▸ ht.asks, fun id => ?_, fun id hid => ⟨fun hid' => ?_, fun hid' => ?_⟩,
    fun id hid' hid => ?_, ?_⟩
  · rw [hf, record_under, ht.batch, hst]
    rfl
  · obtain ⟨k, hk⟩ := Memory.contents_of_mem hid
    rw [contents_of_under (hf id) hid', hk, Option.getD_some]
  · rw [Memory.contents, Std.ExtTreeMap.getElem?_eq_none hid', Option.map_none]
  · have hnone : w.mailbox.contents id = none := by
      rw [Memory.contents, Std.ExtTreeMap.getElem?_eq_none hid, Option.map_none]
    rw [contents_of_under (hf id) hid', hnone, Option.getD_none]
  · obtain ⟨⟨sent, reply⟩, hlast⟩ := Option.ne_none_iff_exists'.mp
      (mt List.getLast?_eq_none_iff.mp ha)
    obtain ⟨round, ho, hround⟩ := Dialogue.exists_of_getLast? hlast
    have hkey := hierarchyKey_landed hb.keyed ht.held p
    rw [← hm] at hkey
    exact ⟨sent, reply, round.key, hst ▸ hlast, (of_outcome ho).1.symm,
      hkey.trans (ht.key.trans hround)⟩

/-- A reply with a response in its body. -/
def Response.reply (r : Response) : Except TransportError Reply := .ok ⟨200, r.toDocument.encode⟩

/-- All folders: one has another name, one is new and one is missing. -/
def listing : Response :=
  ⟨1, some "9", [.add ⟨"5", none, "Posteingang", some 2⟩, .add ⟨"6", some "5", "Alt", some 12⟩]⟩

/-- A server that takes a key back and then names all folders. -/
def relisting : Script Memory where
  replies := [Response.reply ⟨9, none, []⟩, listing.reply]
  meanwhile := []
  id := ""

/-- A world with two folders, one message and a key. -/
def twoFolders : World Memory := .start (Memory.empty.after
  [.createFolders [⟨"5", "Inbox", .inbox, none⟩, ⟨"7", "Old", .regular, none⟩],
    .saveMessage "5" (.blank "5:1") .complete, .setExtra hierarchyKeyMark (some "8")])

theorem relisting_lands :
    twoFolders.mailbox.Built ∧
    ∃ stats v, (pass .sample).runIn relisting.surroundings twoFolders = (.ok stats, v) ∧
      v.mailbox.folders["5"]?.map (·.record) = some ⟨"5", "Posteingang", .inbox, none⟩ ∧
      v.mailbox.contents "5" = twoFolders.mailbox.contents "5" ∧
      v.mailbox.contents "6" = some (∅, ∅) ∧ v.mailbox.contents "7" = none ∧
      v.mailbox.extras[hierarchyKeyMark]? = some "9" := by
  have hs : relisting.surroundings.Solitary :=
    Script.solitary_surroundings fun entry h => nomatch h
  have hb : twoFolders.mailbox.Built := ⟨_, rfl⟩
  have hrun : (pass .sample).runIn relisting.surroundings twoFolders =
      (.ok ⟨2, 1, 1, 1, 0, true⟩, ((pass .sample).runIn relisting.surroundings twoFolders).2) :=
    Prod.ext rfl rfl
  refine ⟨hb, _, _, hrun, ?_⟩
  obtain ⟨-, hrecords, hkept, hnew, sent, reply, key, hlast, hreply, hkey⟩ := pass_lands hs hb hrun
  generalize hv : ((pass .sample).runIn relisting.surroundings twoFolders).2 = v at *
  have hst : (standing twoFolders v).accepted = [(none, listing.reply)] := by
    rw [← hv]
    rfl
  rw [hst, List.getLast?_singleton, Option.some.injEq, Prod.mk.injEq] at hlast
  obtain ⟨-, rfl⟩ := hlast
  rw [Standing.gathered, Standing.isFresh, hst] at hrecords
  have hmem {m : Memory} {id : String} {x : Option FolderRecord}
      (h : m.folders[id]?.map (·.record) = x) : id ∈ m.folders ↔ x.isSome = true := by
    rw [Std.ExtTreeMap.mem_iff_isSome_getElem?, ← h, Option.isSome_map]
  have hbefore :
      twoFolders.mailbox.folders["5"]?.map (·.record) = some ⟨"5", "Inbox", .inbox, none⟩ ∧
      twoFolders.mailbox.folders["6"]?.map (·.record) = none ∧
      twoFolders.mailbox.folders["7"]?.map (·.record) = some ⟨"7", "Old", .regular, none⟩ :=
    ⟨rfl, rfl, rfl⟩
  have h5 := (hrecords "5").trans (show _ = some ⟨"5", "Posteingang", .inbox, none⟩ from rfl)
  have h6 := (hrecords "6").trans (show _ = some ⟨"6", "Alt", .regular, some "5"⟩ from rfl)
  have h7 := (hrecords "7").trans (show _ = none from rfl)
  refine ⟨h5, ?_, ?_, ?_, ?_⟩
  · exact (hkept "5" ((hmem hbefore.1).mpr rfl)).1 ((hmem h5).mpr rfl)
  · exact hnew "6" ((hmem h6).mpr rfl) (mt (hmem hbefore.2.1).mp Bool.false_ne_true)
  · exact (hkept "7" ((hmem hbefore.2.2).mpr rfl)).2 (mt (hmem h7).mp Bool.false_ne_true)
  · have hk : keyOf? listing.reply = some "9" := rfl
    exact hkey.trans (hreply.symm.trans hk)

end MailSync.Hierarchy
