import Mathlib.Data.ENat.Lattice
import MailSync.Proofs.Collection.Asking
import MailSync.Proofs.Sending

/-!
# The requests of a pass

Whatever the server answers, each request of a pass follows from the replies before it. It states
the key that these leave, and a fresh start where there is none. It asks for more messages the more
often the server stalled since the last restart, up to a limit, and for the window that the owner
permits. Each request carries the policy key that is in the mailbox when it is sent.
-/
namespace MailSync.Window

/-- How long a window is, by the count and the unit that it is shown by. For a month any number of
days that is more than two weeks would do. -/
def days (w : Window) : ℕ∞ :=
  match w.span with
  | (_, .unbounded) => ⊤
  | (n, .days) => n
  | (n, .weeks) => (7 * n : Nat)
  | (n, .months) => (30 * n : Nat)

variable {v w : Window}

theorem rank_le_iff : v.rank ≤ w.rank ↔ v.days ≤ w.days := by
  cases v <;> cases w <;> decide

theorem days_cappedAt (w limit : Window) : (w.cappedAt limit).days = min w.days limit.days := by
  unfold cappedAt
  split_ifs with h
  · exact (min_eq_left (rank_le_iff.mp h)).symm
  · exact (min_eq_right (rank_le_iff.mp (Nat.le_of_not_le h))).symm

theorem cappedAt_eq_or (w limit : Window) : w.cappedAt limit = w ∨ w.cappedAt limit = limit :=
  ite_eq_or_eq ..

end MailSync.Window

namespace MailSync.Collection
open Mailbox (Memory policyKeyMark)
open Operation (Ensures)
open Wbxml (Element)
open CodePage

variable {s : Surroundings Memory} {sess : Session} {folder : String} {window : Window}

/-! ### Stalls -/

/-- A reply that has more to come but leaves a key in use as it was. -/
def isStall (folder : String) (a : Option String × Except TransportError Reply) : Bool :=
  moreAvailable folder a.2 && !SyncKey.isInitial a.1 && a.1 = some (keyAfter folder a.1 a.2)

/-- How often the server has stalled since the last fresh start. -/
def stalls (folder : String) (st : Standing) : Nat := st.accepted.countP (isStall folder)

theorem stalls_accept (st : Standing) (key : String) (reply : Except TransportError Reply) :
    stalls folder (st.accept key reply) =
      stalls folder st + if isStall folder (st.key, reply) then 1 else 0 := by
  rw [stalls, Standing.accept, List.countP_append, List.countP_singleton, stalls]

section
variable {p q : Progress} {round : Round Batch} {r : Except TransportError Reply} {st : Standing}

theorem stalls_iff (ho : outcome folder p.key r = .ok round) :
    p.Stalls round ↔ isStall folder (p.key, r) = true := by
  obtain ⟨hkey, -, hmore⟩ := of_outcome ho
  simp only [isStall, Bool.and_eq_true, Bool.not_eq_true', decide_eq_true_eq, ← hkey]
  constructor
  · intro h
    rw [h.more, h.inUse, Bool.or_false] at hmore
    exact ⟨⟨hmore.symm, h.inUse⟩, h.same⟩
  · rintro ⟨⟨havailable, hinUse⟩, hsame⟩
    exact ⟨by rw [hmore, havailable, Bool.true_or], hinUse, hsame⟩

/-- The number of messages to ask for next grows with the stalls, up to a limit. -/
structure Sized (folder : String) (p : Progress) (st : Standing) : Prop where
  windowSize : p.windowSize.toNat = 10 * (1 + stalls folder st)
  limited : p.windowSize.toNat ≤ 512

theorem Sized.start (h : p.windowSize = windowStep) (key : Option String) :
    Sized folder p (.start key) := by
  constructor
  · rw [h]
    rfl
  · rw [h]
    decide

/-- A reply that stalls has one step more asked for, any other leaves the number. -/
theorem Sized.takes (h : Sized folder p st) (hkey : p.key = st.key)
    (ho : outcome folder p.key r = .ok round) (ht : p.Takes round q) :
    Sized folder q (st.accept round.key r) := by
  have hsize := h.windowSize
  have hlimit := h.limited
  have hstalls := stalls_iff ho
  rw [hkey] at hstalls
  by_cases hstall : p.Stalls round
  · obtain ⟨hgrown, hle⟩ := ht.grown hstall
    have hsum : q.windowSize.toNat = p.windowSize.toNat + 10 := by
      rw [hgrown, UInt32.toNat_add, windowStep]
      exact Nat.mod_eq_of_lt (by change p.windowSize.toNat + 10 < 2 ^ 32; omega)
    constructor
    · rw [stalls_accept, if_pos (hstalls.mp hstall)]
      omega
    · exact UInt32.le_iff_toNat_le.mp hle
  · have hkept := ht.kept hstall
    constructor
    · rw [stalls_accept, if_neg (mt hstalls.mpr hstall), hkept]
      omega
    · rw [hkept]
      exact hlimit

/-- An exchange makes of the number what it makes of the standing. -/
theorem Sized.after (h : Sized folder p st) (hkey : p.key = st.key) {errand : Errand}
    {mayProvision : Bool} {stored : Option String} {x : Exchanged} {next : Next}
    (hcommand : x.1.command = "Sync")
    (hleads : p.Leads errand folder mayProvision (outcome folder p.key x.2) next)
    (hq : next.progress? errand stored = some q) :
    Sized folder q ((dialogue folder stored).after st x) := by
  generalize ho : outcome folder p.key x.2 = o at hleads
  have hafter := hkey ▸ ho
  cases hleads with
  | more _ takes | done _ takes =>
    obtain rfl := Option.some.inj hq
    rw [Dialogue.after_ok hcommand hafter]
    exact h.takes hkey ho takes
  | restart verdict =>
    obtain rfl := Option.some.inj hq
    rw [Dialogue.after_error hcommand hafter, verdict]
    exact .start rfl none
  | refresh verdict =>
    obtain rfl := Option.some.inj hq
    rw [Dialogue.after_error hcommand hafter, verdict]
    exact .start rfl stored
  | provision verdict =>
    obtain rfl := Option.some.inj hq
    rw [Dialogue.after_error hcommand hafter, verdict]
    exact ⟨h.windowSize, h.limited⟩
  | stalled | fail => cases hq

/-! ### What a request says -/

/-- A request as the server reads it, by where the folder stood when it was sent. A fresh start
states nothing but the collection. -/
structure Says (folder : String) (window : Window) (st : Standing) (root : Element) : Prop where
  fresh : SyncKey.isInitial st.key = true → collectionIn root = some (.node AirSync.collection
    [.text AirSync.syncKey "0", .text AirSync.collectionId (Text.withoutNul folder)])
  key : SyncKey.isInitial st.key = false → keyIn root = st.key.map Text.withoutNul
  windowSize : SyncKey.isInitial st.key = false →
    (windowSizeIn root).map (·.toNat) = some (10 * (1 + stalls folder st))
  limited : 10 * (1 + stalls folder st) ≤ 512
  filterType : SyncKey.isInitial st.key = false → filterTypeIn root = some window.code

/-- What is posted can be read, and says what it should. -/
def Stated (folder : String) (window : Window) (st : Standing) (q : MailSync.Request) : Prop :=
  ∃ root, Wbxml.decode q.body = .ok root ∧ Says folder window st root

theorem Sized.stated (h : Sized folder p st) (hkey : p.key = st.key) (settings : ProtocolSettings)
    (errand : Errand) (window : Window) :
    Stated folder window st (wire settings (p.request errand folder window) p.key) := by
  refine ⟨_, Request.decode_encode_toDocument .., ?_⟩
  rw [hkey]
  constructor
  · intro hi
    rw [hi, collectionIn_toDocument, SyncKey.sent_of_isInitial hi, if_pos rfl, List.append_nil]
    rfl
  · intro hi
    cases hk : st.key with
    | none =>
      rw [hk] at hi
      cases hi
    | some key => rw [keyIn_toDocument, SyncKey.sent_some (hk ▸ hi), Option.map_some]
  · intro hi
    rw [hi, windowSizeIn_toDocument, Option.map_some, ← h.windowSize]
    rfl
  · exact h.windowSize ▸ h.limited
  · intro hi
    rw [hi, filterTypeIn_toDocument]
    rfl

end

/-! ### Along a pass -/

/-- A request bears the policy key in force, and one about messages finds the key of its folder as
it was. -/
structure Timely (folder : String) (stored : Option String) (account : Account)
    (q : MailSync.Request) (m : Memory) : Prop where
  policyKey : q.command = "Sync" ∨ q.command = "FolderSync" →
    account.policyHeader = (m.extras[policyKeyMark]?).getD "0"
  stored : q.command = "Sync" → m.key? folder = stored

/-- The requests since a pass began are what the replies before them ask for. -/
structure InShape (folder : String) (window : Window) (w v : World Memory) : Prop where
  stated : (dialogue folder (w.mailbox.key? folder)).Asks (Stated folder window) (w.since v)
  timely : w.Adds (Moment.Sends (Timely folder (w.mailbox.key? folder))) v

namespace InShape
variable {w v u : World Memory}

theorem refl (folder : String) (window : Window) (w : World Memory) :
    InShape folder window w w where
  stated := by
    rw [World.since_self]
    exact .nil _ _
  timely := .refl _ w

theorem history (h : InShape folder window w v) : w.history <+: v.history :=
  World.Adds.history h.timely

/-- Whatever asks nothing about the folder keeps the shape. -/
theorem quiet (h : InShape folder window w v) (hq : v.Quiet "Sync" u)
    (htimely : v.Adds (Moment.Sends (Timely folder (w.mailbox.key? folder))) u) :
    InShape folder window w u where
  stated := by
    rw [World.since_append h.history hq.history]
    exact h.stated.append_of_quiet hq.since
  timely := h.timely.trans htimely

theorem cancelled (h : InShape folder window w v) (cancelled : Bool) :
    InShape folder window w { v with cancelled } :=
  h.quiet (.of_exchanges List.prefix_rfl rfl) (.of_eq rfl)

end InShape

/-- Between two rounds: the progress is where the exchanges have left the folder, and so is what is
asked for next. -/
structure Underway (sess : Session) (folder : String) (window : Window) (w : World Memory)
    (p : Progress) (v : World Memory) : Prop where
  tracks : Tracks sess folder w p v
  sized : Sized folder p (standing folder w v)
  shape : InShape folder window w v

section
variable {errand : Errand} {w v u : World Memory} {p : Progress}

/-- Whatever its reply is, the next request has the shape. -/
theorem Underway.replied (h : Underway sess folder window w p v) (errand : Errand)
    (r : Except TransportError Reply) (c : Bool) :
    InShape folder window w ((rounds sess folder errand window).replied sess p v r c) where
  stated := by
    rw [Rounds.replied, Dialogue.since_exchanged h.shape.history]
    exact h.shape.stated.concat fun _ => h.sized.stated h.tracks.key sess.settings errand window
  timely := by
    have hstored : v.mailbox.key? folder = w.mailbox.key? folder := by
      rw [Memory.key?_eq, h.tracks.contents, ← Memory.key?_eq]
    have htimely : Timely folder (w.mailbox.key? folder) (sess.accountIn v.mailbox)
        (wire sess.settings (p.request errand folder window) p.key) v.mailbox :=
      ⟨fun _ => rfl, fun _ => hstored⟩
    exact h.shape.timely.trans (.sends_exchanged htimely r c)

/-- A pass is still under way after a reply that does not end it. -/
theorem Underway.after (h : Underway sess folder window w p v) {errand : Errand}
    {mayProvision : Bool} {r : Except TransportError Reply} {next : Next} {q : Progress}
    (hleads : p.Leads errand folder mayProvision (outcome folder p.key r) next)
    (hq : next.progress? errand (w.mailbox.key? folder) = some q) (c : Bool) :
    Underway sess folder window w q ((rounds sess folder errand window).replied sess p v r c) where
  tracks := h.tracks.replied hleads hq c
  sized := by
    rw [standing, Rounds.replied, Dialogue.since_exchanged h.shape.history, Dialogue.along_concat]
    exact h.sized.after h.tracks.key rfl hleads hq
  shape := h.replied errand r c

/-- Whatever asks nothing about the folder and keeps what it holds leaves the pass where it is. -/
theorem Underway.quiet (h : Underway sess folder window w p v) (hq : v.Quiet "Sync" u)
    (hc : u.mailbox.contents folder = v.mailbox.contents folder)
    (hshape : InShape folder window w u) : Underway sess folder window w p u where
  tracks := h.tracks.quiet hq hc
  sized := by
    rw [standing, Dialogue.along_since_of_quiet h.shape.history hq]
    exact h.sized
  shape := hshape

/-- Nothing is asked of the requests of the handshake. -/
theorem timely_of_provision (stored : Option String) (account : Account) (q : MailSync.Request)
    (m : Memory) (hq : q.command = "Provision") : Timely folder stored account q m := by
  have hsync : q.command ≠ "Sync" := by rw [hq]; decide
  have hfolders : q.command ≠ "FolderSync" := by rw [hq]; decide
  exact ⟨fun h => absurd h (not_or.mpr ⟨hsync, hfolders⟩), fun h => absurd h hsync⟩

theorem InShape.hierarchyPass (hs : s.Solitary) (sess : Session) (h : InShape folder window w v) :
    InShape folder window w ((Hierarchy.pass sess).runIn s v).2 := by
  refine h.quiet (Hierarchy.quiet_pass hs sess v)
    (Hierarchy.adds_pass (timely_of_provision _) (fun q m hq => ?_) hs v)
  have hsync : q.command ≠ "Sync" := by rw [hq]; decide
  exact ⟨fun _ => rfl, fun h => absurd h hsync⟩

theorem InShape.provision (hs : s.Solitary) (sess : Session) (h : InShape folder window w v) :
    InShape folder window w (sess.provision.runIn s v).2 :=
  h.quiet (sess.quiet_provision hs "Sync" (by decide) v)
    (sess.adds_provision (timely_of_provision _) hs v)

theorem carries_shape (hs : s.Solitary) (w : World Memory) {k}
    (hk : w.mailbox.contents folder = some k) :
    (rounds sess folder errand window).Carries s sess (Underway sess folder window w)
      (fun _ v => InShape folder window w v) fun _ v => InShape folder window w v := by
  refine { look := fun c h => ?_, stop := fun h => h.shape, limit := fun h => h.shape
           drop := fun r c h => h.replied errand r c, step := fun {p v} r c h => ?_ }
  · exact h.quiet (.of_exchanges List.prefix_rfl rfl) rfl (h.shape.cancelled c)
  have hleads := p.leads_next errand folder sess.mayProvision (outcome folder p.key r)
  have hshape := h.replied errand r c
  rw [rounds_step]
  generalize p.next errand folder sess.mayProvision (outcome folder p.key r) = next at hleads
  cases next with
  | again q => exact h.after hleads rfl c
  | finish q => exact hshape
  | refresh q =>
    have hq : Underway sess folder window w (q.restart errand (w.mailbox.key? folder)) _ :=
      h.after hleads rfl c
    have hpass := ((ensures_refresh hs hq.tracks hk).and_always
      (Hierarchy.quiet_pass hs sess _)).and_always (hshape.hierarchyPass hs sess)
    refine ensures_refresh_step (hpass.mono (fun _ u hu => ?_) fun _ _ hu => hu.2)
    refine .requireFolder (fun hf => ⟨hu.1.1.ok (runIn_requireFolder hf), ?_, hu.2⟩) fun _ => hu.2
    rw [standing, Dialogue.along_since_of_quiet hshape.history hu.1.2]
    exact ⟨hq.sized.windowSize, hq.sized.limited⟩
  | provision q =>
    have hq : Underway sess folder window w q _ := h.after hleads rfl c
    have hprovision := ((sess.ensures_provision hs _).and_always
      (sess.quiet_provision hs "Sync" (by decide) _)).and_always (hshape.provision hs sess)
    refine Step.ensures_after (hprovision.mono (fun _ u hu => ?_) fun _ _ hu => hu.2)
    exact hq.quiet hu.1.2 (hu.1.1.mailbox.contents folder) hu.2
  | fail e => exact hshape

end

theorem ensures_pass_shape (hs : s.Solitary) (sess : Session) (folder : String) (errand : Errand)
    (w : World Memory) :
    let window := ((w.mailbox.window? folder).getD .standard).cappedAt sess.maxWindow
    Ensures (pass sess folder errand) s w (fun _ v => InShape folder window w v)
      fun _ v => InShape folder window w v := by
  intro window
  refine ensures_pass_of_collect (fun _ => .refl ..) fun hf => ?_
  obtain ⟨k, hk⟩ := Memory.contents_of_mem hf
  have hstart : Underway sess folder window w (.start errand (w.mailbox.key? folder)) w := by
    refine ⟨.start sess folder errand w, ?_, .refl folder window w⟩
    rw [standing_self]
    exact .start rfl _
  refine ((carries_shape hs w hk).ensures hs _ hstart).mono (fun _ v h c => ?_) fun _ _ h => h
  exact ⟨h.cancelled c, h.cancelled c⟩

/-- However a pass ends, each of its requests is what the replies before it ask for. A request about
the folder states the key of the standing that these leave. That is the key of the last accepted
reply, or the one that was sent if it has none; before, it is the stored key, also after a pass over
the hierarchy, since each request finds the stored key as it was at the start. Without a key a fresh
start is stated, and nothing else but the folder. With one the request asks for ten messages and ten
more for each stall since the last restart, 512 at most, and for the window that was stored at the
start or the largest one that is permitted, whichever has fewer days. It carries the policy key in
force when it is sent, and so does a request about the hierarchy. -/
theorem requests_follow_replies (hs : s.Solitary) (sess : Session) {errand : Errand}
    {w v : World Memory} {result : Except SyncError Collected}
    (h : (pass sess folder errand).runIn s w = (result, v)) :
    let chosen := (w.mailbox.window? folder).getD .standard
    ∃ window : Window, (window = chosen ∨ window = sess.maxWindow) ∧
      window.days = min chosen.days sess.maxWindow.days ∧
      (∀ xs x ys, w.since v = xs ++ x :: ys → x.1.command = "Sync" →
        Keyed folder ((dialogue folder (w.mailbox.key? folder)).along xs) ∧
        ∃ root, Wbxml.decode x.1.body = .ok root ∧
          Says folder window ((dialogue folder (w.mailbox.key? folder)).along xs) root) ∧
      w.Adds (Moment.Sends (Timely folder (w.mailbox.key? folder))) v := by
  intro chosen
  have hshape := (ensures_pass_shape hs sess folder errand w).always
  rw [h] at hshape
  refine ⟨_, chosen.cappedAt_eq_or _, chosen.days_cappedAt _, fun xs x ys hx hcommand => ?_,
    hshape.timely⟩
  exact ⟨keyed_along folder _ xs, hshape.stated xs x ys hx hcommand⟩

/-- A world with a folder that has a key. -/
def keyedInbox : World Memory :=
  .start (World.inbox.mailbox.after [.setFolderExtra "5" Mailbox.keyMark (some "4")])

/-- A server that stalls, demands the handshake, takes the key back and changes the hierarchy. -/
def faltering : Script Memory where
  replies := [Response.reply ⟨1, some "4", true, [], []⟩ "5", .ok ⟨449, []⟩,
    .ok ⟨200, (DevicePolicy.responseDocument 1 (some "77")).encode⟩,
    .ok ⟨200, (DevicePolicy.responseDocument 1 (some "78")).encode⟩,
    Response.reply ⟨3, none, false, [], []⟩ "5", Response.reply ⟨1, some "5", false, [], []⟩ "5",
    Response.reply ⟨12, none, false, [], []⟩ "5",
    .ok ⟨200, Hierarchy.Response.toDocument
      ⟨1, some "1", [.add ⟨"5", some "0", "Inbox", some 2⟩]⟩ |>.encode⟩,
    Response.reply ⟨1, some "6", false, [], []⟩ "5"]
  meanwhile := []
  id := ""

/-- The first request after the handshake states the key that is stored and counts the one stall. -/
theorem faltering_follows_replies : faltering.surroundings.Solitary ∧ ∃ result v,
    (pass .sample "5" .changes).runIn faltering.surroundings keyedInbox = (result, v) ∧
    keyedInbox.Adds (Moment.Sends (Timely "5" (some "4"))) v ∧
    ∃ (window : Window) (x : Exchanged) (root : Element), window.days = Window.oneWeek.days ∧
      (keyedInbox.since v)[4]? = some x ∧ Wbxml.decode x.1.body = .ok root ∧
      keyIn root = some "4" ∧ (windowSizeIn root).map (·.toNat) = some 20 ∧
      filterTypeIn root = some window.code := by
  have hs : faltering.surroundings.Solitary := Script.solitary_surroundings fun _ h => nomatch h
  generalize hrun : (pass .sample "5" .changes).runIn faltering.surroundings keyedInbox = run
  have hsync : (keyedInbox.since run.2)[4]?.map (·.1.command) = some "Sync" := by
    rw [← hrun]
    decide +kernel
  have hkey : ((dialogue "5" (keyedInbox.mailbox.key? "5")).along
      ((keyedInbox.since run.2).take 4)).key = some "4" := by
    rw [← hrun]
    decide +kernel
  have hstalls : stalls "5" ((dialogue "5" (keyedInbox.mailbox.key? "5")).along
      ((keyedInbox.since run.2).take 4)) = 1 := by
    rw [← hrun]
    decide +kernel
  obtain ⟨result, v⟩ := run
  obtain ⟨window, -, hdays, hstated, htimely⟩ := requests_follow_replies hs .sample hrun
  obtain ⟨x, hx, hcommand⟩ := Option.map_eq_some_iff.mp hsync
  have hsplit : keyedInbox.since v =
      (keyedInbox.since v).take 4 ++ x :: (keyedInbox.since v).drop 5 := by
    obtain ⟨hlt, rfl⟩ := List.getElem?_eq_some_iff.mp hx
    rw [List.getElem_cons_drop, List.take_append_drop]
  obtain ⟨-, root, hroot, hreads⟩ := hstated _ x _ hsplit hcommand
  have hinUse : SyncKey.isInitial ((dialogue "5" (keyedInbox.mailbox.key? "5")).along
      ((keyedInbox.since v).take 4)).key = false := by
    rw [hkey]
    rfl
  refine ⟨hs, result, v, rfl, htimely, window, x, root, hdays, hx, hroot, ?_, ?_, ?_⟩
  · rw [hreads.key hinUse, hkey]
    rfl
  · rw [hreads.windowSize hinUse, hstalls]
  · exact hreads.filterType hinUse

end MailSync.Collection
