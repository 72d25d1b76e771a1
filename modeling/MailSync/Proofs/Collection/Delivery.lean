import Mathlib.Data.List.Induction
import MailSync.Proofs.Collection.Effects
import MailSync.Proofs.Collection.Standing
import MailSync.Proofs.Trace

/-!
# How a pass delivers its commands

The requests that a pass sends about its collection, as the documents on the wire, each with its
reply. Commands go only with a request that states a key, since a request for a fresh start carries
none. They go along until the server accepts such a request, and not any more after that; when it
refuses the key or tells of a change in the hierarchy, they all go again. So a pass that ends well
has had its commands accepted, after the last of these restarts.
-/
namespace MailSync.Collection
open Mailbox (Medium)
open Operation (Always Only)
open Wbxml (Element)
open CodePage

/-! ### What a request says -/

/-- The collection that a request is about. -/
def collectionIn (document : Element) : Option Element :=
  document.path? [AirSync.collections, AirSync.collection]

/-- The key that a request states. -/
def keyIn (document : Element) : Option String :=
  (collectionIn document).bind (·.childText? AirSync.syncKey)

/-- The commands that a request carries. -/
def commandsIn (document : Element) : List Element :=
  ((collectionIn document).map (childrenOf · AirSync.commands)).getD []

/-- What a request says about the place for deleted messages, if anything. -/
def deletesAsMovesIn (document : Element) : Option String :=
  (collectionIn document).bind (·.childText? AirSync.deletesAsMoves)

section
variable (r : Request) (key : String)

theorem keyIn_toDocument (initial : Bool) : keyIn (r.toDocument key initial) = some key := rfl

theorem commandsIn_toDocument (initial : Bool) :
    commandsIn (r.toDocument key initial) =
      if initial then [] else r.commands.map Command.toElement := by
  obtain ⟨collection, window, windowSize, getChanges, deletesAsMoves, truncation, commands⟩ := r
  cases initial with
  | true => rfl
  | false => cases commands <;> rfl

theorem deletesAsMovesIn_toDocument (initial : Bool) :
    deletesAsMovesIn (r.toDocument key initial) =
      if initial then none else some (bit r.deletesAsMoves) := by
  cases initial <;> rfl

end

theorem Command.tag_toElement_eq_delete {c : Command} :
    c.toElement.tag = AirSync.delete ↔ c.isDelete = true := by
  cases c with
  | delete id => exact iff_of_true rfl rfl
  | fetch id => exact iff_of_false (by change ¬AirSync.fetch = _; decide) nofun
  | flag id which state => exact iff_of_false (by change ¬AirSync.change = _; decide) nofun

/-- A key is sent in one of the forms that mean the same. -/
theorem isInitial_sent (key : Option String) :
    SyncKey.isInitial (some (SyncKey.sent key)) = SyncKey.isInitial key := by
  cases h : SyncKey.isInitial key with
  | true =>
    rw [SyncKey.sent_of_isInitial h]
    rfl
  | false =>
    cases key with
    | none => cases h
    | some key => rw [SyncKey.sent_some h, h]

theorem sent_eq_initial_iff {key : Option String} :
    SyncKey.sent key = SyncKey.initial ↔ SyncKey.isInitial key = true := by
  refine ⟨fun h => ?_, SyncKey.sent_of_isInitial⟩
  rw [← isInitial_sent, h]
  rfl

theorem outcome_sent (folder : String) (key : Option String)
    (reply : Except TransportError Reply) :
    outcome folder (some (SyncKey.sent key)) reply = outcome folder key reply := by
  have hsent : SyncKey.sent (some (SyncKey.sent key)) = SyncKey.sent key := by
    cases h : SyncKey.isInitial key with
    | true =>
      rw [SyncKey.sent_of_isInitial ((isInitial_sent key).trans h), SyncKey.sent_of_isInitial h]
    | false => rw [SyncKey.sent_some ((isInitial_sent key).trans h)]
  unfold outcome roundOfDocument roundOf
  simp only [isInitial_sent, hsent]

/-! ### Trips -/

/-- A request about a collection as it goes over the wire, and what came of it. -/
structure Trip where
  document : Element
  reply : Except TransportError Reply

namespace Trip

/-- The trip as an exchange. -/
def exchanged (settings : ProtocolSettings) (x : Trip) : Exchanged :=
  (Exchange.request "Sync" x.document settings.commandTimeout, x.reply)

/-- Whether the request asks for a fresh start. -/
def isInitial (x : Trip) : Bool := keyIn x.document = some SyncKey.initial

section
variable (folder : String) (x : Trip)

/-- What the reply comes to. -/
def outcome : Except Failure (Round Batch) := Collection.outcome folder (keyIn x.document) x.reply

/-- Whether the server accepts a request that states a key. -/
def isAccepted : Bool := !x.isInitial && (x.outcome folder).isOk

/-- Whether the server refuses the key or tells of a change in the hierarchy. -/
def restarts : Bool :=
  match x.outcome folder with
  | .error f => f.verdict = .keyInvalid || f.verdict = .hierarchyChanged
  | .ok _ => false

/-- Whether the commands are taken after the trip, if they were or were not before. -/
def taken (before : Bool) : Bool := !x.restarts folder && (before || x.isAccepted folder)

theorem taken_of_ok {round : Round Batch} (h : x.outcome folder = .ok round) (before : Bool) :
    x.taken folder before = (before || !x.isInitial) := by
  simp [taken, restarts, isAccepted, h, Except.isOk, Except.toBool]

theorem taken_of_error {f : Failure} (h : x.outcome folder = .error f) (before : Bool) :
    x.taken folder before =
      (!(f.verdict = .keyInvalid || f.verdict = .hierarchyChanged : Bool) && before) := by
  simp [taken, restarts, isAccepted, h, Except.isOk, Except.toBool]

/-- The request carries the commands if they are not yet taken and can go along. -/
structure Carries (commands : List Command) (before : Bool) : Prop where
  commands : commandsIn x.document =
    if x.isInitial || before then [] else commands.map Command.toElement
  deletesAsMoves : deletesAsMovesIn x.document = some "0" ↔
    x.isInitial = false ∧ ∃ e ∈ commandsIn x.document, e.tag = AirSync.delete

end
end Trip

/-- Each of some trips carries the commands when it should. -/
def Delivers (folder : String) (commands : List Command) : Bool → List Trip → Prop
  | _, [] => True
  | before, x :: xs =>
    x.Carries commands before ∧ Delivers folder commands (x.taken folder before) xs

/-- Whether the commands are taken after some trips. -/
def takenAfter (folder : String) (before : Bool) (xs : List Trip) : Bool :=
  xs.foldl (fun before x => x.taken folder before) before

section
variable {folder : String} {commands : List Command} {before : Bool} {xs ys : List Trip} {x : Trip}

theorem Delivers.right (h : Delivers folder commands before (xs ++ ys)) :
    Delivers folder commands (takenAfter folder before xs) ys := by
  induction xs generalizing before with
  | nil => exact h
  | cons x xs ih => exact ih h.2

theorem Trip.not_restarts_of_isAccepted (h : x.isAccepted folder = true) :
    x.restarts folder = false := by
  unfold isAccepted at h
  unfold restarts
  cases ho : x.outcome folder with
  | ok round => rfl
  | error f =>
    rw [ho] at h
    simp [Except.isOk, Except.toBool] at h

theorem takenAfter_append :
    takenAfter folder before (xs ++ ys) =
      takenAfter folder (takenAfter folder before xs) ys :=
  List.foldl_append

theorem takenAfter_of_not_restarts (h : ∀ z ∈ xs, z.restarts folder = false) :
    takenAfter folder true xs = true := by
  induction xs with
  | nil => rfl
  | cons x xs ih =>
    have hx : x.taken folder true = true := by
      simp [Trip.taken, h x List.mem_cons_self]
    change takenAfter folder (x.taken folder true) xs = true
    rw [hx]
    exact ih fun z hz => h z (List.mem_cons_of_mem x hz)

/-- Commands that are taken after some trips were taken by a first one, with no restart since. -/
theorem exists_of_takenAfter (h : takenAfter folder false xs = true) :
    ∃ ys y zs, xs = ys ++ y :: zs ∧ takenAfter folder false ys = false ∧
      y.isAccepted folder = true ∧ ∀ z ∈ zs, z.restarts folder = false := by
  -- On the trips from the last one, which either took the commands or left them taken.
  induction xs using List.reverseRecOn with
  | nil => cases h
  | append_singleton xs x ih =>
    rw [takenAfter_append] at h
    change x.taken folder (takenAfter folder false xs) = true at h
    simp only [Trip.taken, Bool.and_eq_true, Bool.not_eq_true'] at h
    obtain ⟨hx, h⟩ := h
    cases hb : takenAfter folder false xs with
    | true =>
      obtain ⟨ys, y, zs, rfl, hys, hy, hzs⟩ := ih hb
      refine ⟨ys, y, zs ++ [x], by simp, hys, hy, fun z hz => ?_⟩
      rcases List.mem_append.mp hz with hz | hz
      · exact hzs z hz
      · exact List.mem_singleton.mp hz ▸ hx
    | false =>
      rw [hb, Bool.false_or] at h
      exact ⟨xs, x, [], rfl, hb, h, List.forall_mem_nil _⟩

/-- A request that states a key was accepted, and no restart came since. -/
def Taken (folder : String) (xs : List Trip) : Prop :=
  ∃ ys y zs, xs = ys ++ y :: zs ∧ y.isAccepted folder = true ∧ ∀ z ∈ zs, z.restarts folder = false

theorem takenAfter_iff : takenAfter folder false xs = true ↔ Taken folder xs := by
  constructor
  · intro h
    obtain ⟨ys, y, zs, he, -, hy, hzs⟩ := exists_of_takenAfter h
    exact ⟨ys, y, zs, he, hy, hzs⟩
  · rintro ⟨ys, y, zs, rfl, hy, hzs⟩
    rw [takenAfter_append]
    change takenAfter folder (y.taken folder _) zs = true
    have htaken (before : Bool) : y.taken folder before = true := by
      simp [Trip.taken, hy, Trip.not_restarts_of_isAccepted hy]
    rw [htaken]
    exact takenAfter_of_not_restarts hzs

/-- What a trip carries, by what the trips before it came to. -/
theorem Delivers.carried_at (h : Delivers folder commands false (xs ++ x :: ys)) :
    (x.isInitial = true → commandsIn x.document = []) ∧
    (x.isInitial = false →
      (¬Taken folder xs → commandsIn x.document = commands.map Command.toElement) ∧
      (Taken folder xs → commandsIn x.document = [])) ∧
    (deletesAsMovesIn x.document = some "0" ↔
      x.isInitial = false ∧ ∃ e ∈ commandsIn x.document, e.tag = AirSync.delete) := by
  obtain ⟨hcommands, hdeletes⟩ := h.right.1
  refine ⟨fun hx => ?_, fun hx => ⟨fun ht => ?_, fun ht => ?_⟩, hdeletes⟩
  · rw [hcommands, hx]
    rfl
  · rw [← takenAfter_iff, Bool.not_eq_true] at ht
    rw [hcommands, hx, ht]
    rfl
  · rw [hcommands, hx, takenAfter_iff.mpr ht]
    rfl

/-- The trip that took the commands carried them. -/
theorem Delivers.exists_carried (h : Delivers folder commands false xs)
    (ht : takenAfter folder false xs = true) :
    ∃ ys y zs, xs = ys ++ y :: zs ∧ y.isAccepted folder = true ∧
      commandsIn y.document = commands.map Command.toElement ∧
      ∀ z ∈ zs, z.restarts folder = false := by
  obtain ⟨ys, y, zs, rfl, hys, hy, hzs⟩ := exists_of_takenAfter ht
  have hcarries := h.right.1
  rw [hys] at hcarries
  have hinitial : y.isInitial = false := by
    simp only [Trip.isAccepted, Bool.and_eq_true, Bool.not_eq_true'] at hy
    exact hy.1
  refine ⟨ys, y, zs, rfl, hy, ?_, hzs⟩
  rw [hcarries.commands, hinitial]
  rfl

end

/-! ### Along a pass -/

/-- A round that starts afresh is never the last one. -/
theorem more_of_isInitial {folder : String} {key : Option String}
    {reply : Except TransportError Reply} {round : Round Batch}
    (ho : outcome folder key reply = .ok round) (hk : SyncKey.isInitial key = true) :
    round.more = true := by
  obtain ⟨-, -, hmore⟩ := of_outcome ho
  rw [hmore, hk, Bool.or_true]

section
variable (sess : Session) (folder : String) (commands : List Command) {α β : Type}

/-- Whatever the answers are, the trips of the operation carry the commands when they should, and
in the end they are taken, unless the operation fails. -/
def Conveys (before : Bool) (op : Operation α) : Prop :=
  op.Always
    (fun t _ => ∃ xs, exchangesOf "Sync" t = xs.map (Trip.exchanged sess.settings) ∧
      Delivers folder commands before xs ∧ takenAfter folder before xs = true)
    fun t => ∃ xs, exchangesOf "Sync" t = xs.map (Trip.exchanged sess.settings) ∧
      Delivers folder commands before xs

namespace Conveys
variable {sess folder commands} {before : Bool} {op : Operation α} {f : α → Operation β}

theorem throw (e : SyncError) : Conveys sess folder commands before (throw e : Operation α) :=
  ⟨[], rfl, trivial⟩

theorem pure (a : α) : Conveys sess folder commands true (pure a) := ⟨[], rfl, trivial, rfl⟩

theorem quiet_bind (h : Only (Effect.Avoids "Sync") op)
    (hf : ∀ a, Conveys sess folder commands before (f a)) :
    Conveys sess folder commands before (op >>= f) := by
  have hnone {t t' : List Asked} (ht : ∀ x ∈ t, x.1.Avoids "Sync") :
      exchangesOf "Sync" (t ++ t') = exchangesOf "Sync" t' := by
    rw [exchangesOf_append, exchangesOf_of_avoids ht, List.nil_append]
  refine Always.bind ((Always.of_only h).mono (fun _ _ ht => ht) fun t ht => ?_) fun t a ht => ?_
  · exact ⟨[], exchangesOf_of_avoids ht, trivial⟩
  · refine (hf a).mono (fun t' b ht' => ?_) fun t' ht' => ?_
    · rw [hnone ht]
      exact ht'
    · rw [hnone ht]
      exact ht'

theorem bind_quiet (h : Conveys sess folder commands before op)
    (hf : ∀ a, Only (Effect.Avoids "Sync") (f a)) :
    Conveys sess folder commands before (op >>= f) := by
  have hnone {t t' : List Asked} (ht : ∀ x ∈ t', x.1.Avoids "Sync") :
      exchangesOf "Sync" (t ++ t') = exchangesOf "Sync" t := by
    rw [exchangesOf_append, exchangesOf_of_avoids ht, List.append_nil]
  refine Always.bind (h.mono (fun _ _ ht => ht) fun _ ht => ht) fun t a ht => ?_
  refine (Always.of_only (hf a)).mono (fun t' b ht' => ?_) fun t' ht' => ?_
  · rw [hnone ht']
    exact ht
  · obtain ⟨xs, he, hd, -⟩ := ht
    exact ⟨xs, (hnone ht').trans he, hd⟩

/-- One trip, and what follows its reply. -/
theorem turn_bind {ε : Type} {exchange : Account → Program ε} (document : Element)
    {g : Except TransportError Reply → ε} {f : ε → Operation β}
    (hex : ∀ account, exchange account = Program.effect (.post account
      (Exchange.request "Sync" document sess.settings.commandTimeout)) >>= fun r => Pure.pure (g r))
    (hcarries : ∀ reply, Trip.Carries ⟨document, reply⟩ commands before)
    (hf : ∀ reply, Conveys sess folder commands (Trip.taken folder ⟨document, reply⟩ before)
      (f (g reply))) :
    Conveys sess folder commands before (sess.turn exchange >>= f) := by
  have hone (key account reply c) : exchangesOf "Sync" (Session.turned key account
      (Exchange.request "Sync" document sess.settings.commandTimeout) reply c) =
        [Trip.exchanged sess.settings ⟨document, reply⟩] := by
    rw [Session.exchangesOf_turned]
    exact if_pos rfl
  refine Always.bind ((sess.always_turn hex).mono (fun _ _ ht => ht) fun t ht => ?_)
    fun t o ht => ?_
  · rcases ht with ⟨key, rfl⟩ | ⟨key, account, reply, c, rfl⟩
    · exact ⟨[], rfl, trivial⟩
    · exact ⟨[⟨document, reply⟩], hone .., hcarries reply, trivial⟩
  obtain ⟨key, account, reply, c, rfl, rfl⟩ := ht
  have hjoin {t' : List Asked} {xs : List Trip}
      (he : exchangesOf "Sync" t' = xs.map (Trip.exchanged sess.settings)) :
      exchangesOf "Sync" (Session.turned key account
        (Exchange.request "Sync" document sess.settings.commandTimeout) reply c ++ t') =
        (⟨document, reply⟩ :: xs).map (Trip.exchanged sess.settings) := by
    rw [exchangesOf_append, hone, he]
    rfl
  refine (hf reply).mono (fun t' b ht' => ?_) fun t' ht' => ?_
  · obtain ⟨xs, he, hd, ht⟩ := ht'
    exact ⟨⟨document, reply⟩ :: xs, hjoin he, ⟨hcarries reply, hd⟩, ht⟩
  · obtain ⟨xs, he, hd⟩ := ht'
    exact ⟨⟨document, reply⟩ :: xs, hjoin he, hcarries reply, hd⟩

end Conveys
end

/-- The next request of a pass as it goes over the wire. -/
def Progress.document (p : Progress) (errand : Errand) (folder : String) (window : Window) :
    Element :=
  (p.request errand folder window).toDocument (SyncKey.sent p.key) (SyncKey.isInitial p.key)

section
variable {p : Progress} {errand : Errand} {folder : String} {window : Window}
  {reply : Except TransportError Reply}

theorem Progress.isInitial_trip :
    Trip.isInitial ⟨p.document errand folder window, reply⟩ = SyncKey.isInitial p.key := by
  rw [Trip.isInitial, document, keyIn_toDocument, Bool.eq_iff_iff, decide_eq_true_iff,
    Option.some_inj, sent_eq_initial_iff]

theorem Progress.outcome_trip :
    Trip.outcome folder ⟨p.document errand folder window, reply⟩ = outcome folder p.key reply :=
  outcome_sent folder p.key reply

/-- The next trip carries what is pending. -/
theorem Progress.carries {before : Bool}
    (hp : p.pending = if before then [] else errand.commands) :
    Trip.Carries ⟨p.document errand folder window, reply⟩ errand.commands before := by
  have hcommands : commandsIn (p.document errand folder window) =
      if SyncKey.isInitial p.key then [] else p.pending.map Command.toElement := by
    rw [document, commandsIn_toDocument]
    cases h : SyncKey.isInitial p.key <;> simp [request, h]
  refine ⟨?_, ?_⟩
  · rw [hcommands, isInitial_trip, hp]
    cases SyncKey.isInitial p.key <;> cases before <;> rfl
  · have hdelete : (∃ e ∈ p.pending.map Command.toElement, e.tag = AirSync.delete) ↔
        p.pending.any Command.isDelete = true := by
      simp only [List.mem_map, exists_exists_and_eq_and, Command.tag_toElement_eq_delete,
        List.any_eq_true]
    rw [hcommands, isInitial_trip, document, deletesAsMovesIn_toDocument]
    cases SyncKey.isInitial p.key with
    | true => simp
    | false =>
      simp only [Bool.false_eq_true, if_false, true_and, hdelete, request]
      cases p.pending.any Command.isDelete <;> decide

end

theorem conveys_collect (sess : Session) (folder : String) (errand : Errand) (window : Window)
    (left : Nat) {p : Progress} {before : Bool}
    (hp : p.pending = if before then [] else errand.commands) :
    Conveys sess folder errand.commands before (collect sess folder errand window left p) := by
  have hlook : Only (Effect.Avoids "Sync") Operation.checkCancelled := .checkCancelled trivial
  have hprovision := sess.avoids_provision (show "Sync" ≠ "Provision" by decide)
  induction left generalizing p before with
  | zero => exact .quiet_bind hlook fun _ => .throw _
  | succ left ih =>
    rw [collect_succ]
    refine .quiet_bind hlook fun _ => ?_
    refine .turn_bind (p.document errand folder window) (g := outcome folder p.key)
      (fun account => rfl) (fun reply => Progress.carries hp) fun reply => ?_
    have hleads := p.leads_next errand folder sess.mayProvision (outcome folder p.key reply)
    have hinitial : (Trip.mk (p.document errand folder window) reply).isInitial =
        SyncKey.isInitial p.key := Progress.isInitial_trip
    have houtcome : (Trip.mk (p.document errand folder window) reply).outcome folder =
        outcome folder p.key reply := Progress.outcome_trip
    generalize Trip.mk (p.document errand folder window) reply = x at hinitial houtcome ⊢
    generalize ho : outcome folder p.key reply = o at houtcome hleads ⊢
    generalize p.next errand folder sess.mayProvision o = next at hleads ⊢
    cases hleads with
    | more _ takes =>
      rw [x.taken_of_ok folder houtcome, hinitial]
      refine ih ?_
      rw [takes.pending, hp]
      cases SyncKey.isInitial p.key <;> cases before <;> rfl
    | done more _ =>
      have hkey : SyncKey.isInitial p.key = false := by
        rw [← Bool.not_eq_true]
        exact fun hk => absurd (more_of_isInitial ho hk) (Bool.eq_false_iff.mp more)
      rw [x.taken_of_ok folder houtcome, hinitial, hkey, Bool.not_false, Bool.or_true]
      exact .pure _
    | restart verdict _ =>
      rw [x.taken_of_error folder houtcome, verdict]
      exact ih rfl
    | refresh verdict _ =>
      rw [x.taken_of_error folder houtcome, verdict]
      refine .quiet_bind (Hierarchy.avoids_pass sess).discard fun _ => ?_
      refine .quiet_bind (only_requireFolder fun _ _ => trivial) fun _ => ?_
      exact .quiet_bind (.ask trivial) fun stored => ih rfl
    | provision verdict _ _ =>
      rw [x.taken_of_error folder houtcome, verdict]
      exact .quiet_bind hprovision fun _ => ih hp
    | stalled | fail => exact .throw _

theorem conveys_pass (sess : Session) (folder : String) (errand : Errand) :
    Conveys sess folder errand.commands false (pass sess folder errand) := by
  have hfolder : Only (Effect.Avoids "Sync") (requireFolder folder) :=
    only_requireFolder fun _ _ => trivial
  refine .quiet_bind hfolder fun _ => .quiet_bind (hfolder.bind fun _ => ?_) fun window => ?_
  · exact Only.bind (Only.bind (.ask trivial) fun _ => .pure _) fun _ => .pure _
  refine .quiet_bind (.ask trivial) fun stored => ?_
  refine (conveys_collect sess folder errand _ _ rfl).bind_quiet fun _ => ?_
  exact (Only.checkCancelled trivial).bind fun _ => .pure _

/-- The commands of a pass are delivered at least once, and not again without need. A request for a
fresh start carries none. Any other carries them all if the server has not taken them since the last
restart, and none if it has; it has deleted messages taken away, not moved, just when it carries a
deletion. A pass that ends well has had all its commands accepted with no restart after that. -/
theorem commands_are_delivered {σ : Type} [Medium σ] (s : Surroundings σ) (sess : Session)
    (folder : String) (errand : Errand) (w : World σ) :
    ∃ trips : List Trip,
      exchangesOf "Sync" ((pass sess folder errand).trace s w) =
        trips.map (Trip.exchanged sess.settings) ∧
      (∀ xs x ys, trips = xs ++ x :: ys →
        (x.isInitial = true → commandsIn x.document = []) ∧
        (x.isInitial = false →
          (¬Taken folder xs → commandsIn x.document = errand.commands.map Command.toElement) ∧
          (Taken folder xs → commandsIn x.document = [])) ∧
        (deletesAsMovesIn x.document = some "0" ↔
          x.isInitial = false ∧ ∃ e ∈ commandsIn x.document, e.tag = AirSync.delete)) ∧
      ∀ c v, (pass sess folder errand).runIn s w = (.ok c, v) →
        ∃ ys y zs, trips = ys ++ y :: zs ∧ y.isAccepted folder = true ∧
          commandsIn y.document = errand.commands.map Command.toElement ∧
          ∀ z ∈ zs, z.restarts folder = false := by
  have hpass := conveys_pass sess folder errand
  rcases hr : (pass sess folder errand).runIn s w with ⟨e | c, v⟩
  · obtain ⟨trips, ht, hd⟩ := hpass.error hr
    exact ⟨trips, ht, fun xs x ys he => (he ▸ hd).carried_at, fun c v h => nomatch h⟩
  · obtain ⟨trips, ht, hd, htaken⟩ := hpass.ok hr
    exact ⟨trips, ht, fun xs x ys he => (he ▸ hd).carried_at, fun _ _ _ =>
      hd.exists_carried htaken⟩

end MailSync.Collection
