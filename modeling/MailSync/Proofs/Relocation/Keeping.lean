import MailSync.Proofs.Collection.Writing
import MailSync.Proofs.DevicePolicy.Handshake
import MailSync.Proofs.Exchange
import MailSync.Proofs.Relocation.Outcome

/-!
# Moves lose nothing

Confirmed moves are repeated in the mailbox by a copy of each message and one removal after all of
them. The copies go to another folder than the one they are read from, so that none of them disturbs
the next, and in whichever order they are made each message is in its old place until it is in the
new one. Where the new ids differ no copy is written over.
-/
namespace MailSync
open Mailbox (Call Memory)
open Operation (Ensures)

variable {s : Surroundings Memory} {w : World Memory}

/-- The same content, flags and download state under another id. -/
def StoredMessage.under (x : StoredMessage) (id : String) : StoredMessage :=
  ⟨{ x.message with id }, x.state⟩

namespace Relocation
variable {m : Memory} {source target : String} {moves : List (String × String)}

/-! ### The calls that repeat moves -/

/-- The copies of those moved messages that are there. -/
def copies (m : Memory) (source target : String) (moves : List (String × String)) : List Call :=
  moves.filterMap fun p => (m.message? source p.1).map fun x =>
    .saveMessage target (x.under p.2).message (x.under p.2).state

/-- The removal of moved messages from their old place. -/
def removal (source : String) (moves : List (String × String)) : List Call :=
  if moves.isEmpty then [] else [.destroyMessages source (moves.map Prod.fst)]

theorem edits_copies {c : Call} (h : c ∈ copies m source target moves) : c.Edits target := by
  obtain ⟨p, -, hp⟩ := List.mem_filterMap.mp h
  obtain ⟨x, -, rfl⟩ := Option.map_eq_some_iff.mp hp
  exact .save _ _

theorem edits_removal {c : Call} (h : c ∈ removal source moves) : c.Edits source := by
  unfold removal at h
  split_ifs at h
  · cases h
  · rw [List.mem_singleton.mp h]
    exact .destroy _

/-- What the copies are depends on the messages in the old place alone. -/
theorem copies_congr {m' : Memory} (h : ∀ id, m'.message? source id = m.message? source id) :
    copies m' source target moves = copies m source target moves := by
  simp only [copies, h]

theorem runIn_copies (hne : source ≠ target) (ht : target ∈ w.mailbox.folders)
    (moves : List (String × String)) :
    (moves.forM fun (id, newId) => copy source target id newId).runIn s w =
      (.ok (), w.written (copies w.mailbox source target moves)) := by
  induction moves generalizing w with
  | nil => exact congrArg (Prod.mk _) w.written_nil.symm
  | cons p moves ih =>
    obtain ⟨id, newId⟩ := p
    have hread : (Operation.ask (.message source id)).runIn s w =
        (.ok (w.mailbox.message? source id), w) := Operation.runIn_ask_read rfl s w
    rw [List.forM_eq_forM, List.forM_cons]
    cases hx : w.mailbox.message? source id with
    | none =>
      have hcopy : (copy source target id newId).runIn s w = (.ok (), w) := by
        rw [copy, Operation.runIn_bind_ok hread, hx]
        rfl
      have hcopies : copies w.mailbox source target ((id, newId) :: moves) =
          copies w.mailbox source target moves :=
        List.filterMap_cons_none (by rw [hx, Option.map_none])
      rw [Operation.runIn_bind_ok hcopy, hcopies]
      exact ih ht
    | some x =>
      let call := Call.saveMessage target (x.under newId).message (x.under newId).state
      have hedits : ∀ c ∈ [call], c.Edits target := fun c hc => List.mem_singleton.mp hc ▸ .save _ _
      have hcopy : (copy source target id newId).runIn s w = (.ok (), w.written [call]) := by
        rw [copy, Operation.runIn_bind_ok hread, hx]
        refine (Operation.runIn_ask_write rfl s w).trans (Prod.ext ?_ rfl)
        simp only [Memory.answer, Memory.require, if_pos ht]
        rfl
      have hcopies : copies w.mailbox source target ((id, newId) :: moves) =
          call :: copies w.mailbox source target moves :=
        List.filterMap_cons_some (by rw [hx, Option.map_some])
      have hsame : copies (w.written [call]).mailbox source target moves =
          copies w.mailbox source target moves :=
        copies_congr (Memory.message?_after_of_edits_of_ne hedits hne.symm _)
      rw [Operation.runIn_bind_ok hcopy, hcopies, ← hsame, w.written_cons call (copies ..)]
      exact ih (w := w.written [call]) ((Memory.mem_after_of_edits hedits).mpr ht)

/-- To repeat moves is to make the copies and then the removal. -/
theorem runIn_relocate (hne : source ≠ target) (ht : target ∈ w.mailbox.folders)
    (moves : List (String × String)) :
    (relocate source target moves).runIn s w =
      (.ok (), w.written (copies w.mailbox source target moves ++ removal source moves)) := by
  rw [relocate, Operation.runIn_bind_ok (runIn_copies hne ht moves), World.written_append]
  unfold removal
  split_ifs with hempty
  · rw [World.written_nil]
    rfl
  · exact Operation.runIn_ask_write rfl s _

/-! ### What they make of the mailbox -/

theorem message?_after_removal (m : Memory) (source : String) (moves : List (String × String))
    (id : String) : (m.after (removal source moves)).message? source id =
      if id ∈ moves.map Prod.fst then none else m.message? source id := by
  unfold removal
  split_ifs with hempty hid hid
  · rw [List.isEmpty_iff.mp hempty] at hid
    cases hid
  · rfl
  · rw [Memory.after_cons, Memory.after_nil, Memory.message?_next_destroy, if_pos hid]
  · rw [Memory.after_cons, Memory.after_nil, Memory.message?_next_destroy, if_neg hid]

/-- A copy is what lies under its new id afterwards, if no other copy goes there. -/
theorem message?_after_copies (ht : target ∈ m.folders) (hnodup : (moves.map Prod.snd).Nodup)
    {id newId : String} (hmove : (id, newId) ∈ moves) {x : StoredMessage}
    (hx : m.message? source id = some x) :
    (m.after (copies m source target moves)).message? target newId = some (x.under newId) := by
  obtain ⟨before, after, rfl⟩ := List.append_of_mem hmove
  have hcall : copies m source target (before ++ (id, newId) :: after) =
      copies m source target before ++
        .saveMessage target (x.under newId).message (x.under newId).state ::
          copies m source target after := by
    simp only [copies, List.filterMap_append, List.filterMap_cons, hx, Option.map_some]
  -- No later copy goes under the same id.
  have hpass : ∀ c ∈ copies m source target after, ∀ y, c.editOf newId y = y := by
    intro c hc y
    obtain ⟨p, hp, hcp⟩ := List.mem_filterMap.mp hc
    obtain ⟨z, -, rfl⟩ := Option.map_eq_some_iff.mp hcp
    refine if_neg fun (he : p.2 = newId) => ?_
    rw [List.map_append, List.map_cons] at hnodup
    have hfresh := (List.nodup_cons.mp (List.nodup_append.mp hnodup).2.1).1
    exact hfresh (List.mem_map.mpr ⟨p, hp, he⟩)
  rw [Memory.message?_after_of_mem (fun _ => edits_copies) ht, hcall, List.foldl_append,
    List.foldl_cons, foldl_of_passing hpass]
  exact if_pos rfl

/-- Where no copy goes nothing changes. -/
theorem message?_after_copies_of_no_copy (ht : target ∈ m.folders) {newId : String}
    (h : ∀ id, (id, newId) ∈ moves → m.message? source id = none) :
    (m.after (copies m source target moves)).message? target newId = m.message? target newId := by
  have hpass : ∀ c ∈ copies m source target moves, ∀ y, c.editOf newId y = y := by
    intro c hc y
    obtain ⟨⟨id, n⟩, hp, hcp⟩ := List.mem_filterMap.mp hc
    obtain ⟨z, hz, rfl⟩ := Option.map_eq_some_iff.mp hcp
    refine if_neg fun (he : n = newId) => ?_
    exact nomatch (h id (he ▸ hp)).symm.trans hz
  rw [Memory.message?_after_of_mem (fun _ => edits_copies) ht, foldl_of_passing hpass]

/-- Moves that were repeated in a mailbox: each moved message is in its new place and nothing else
has changed. -/
structure Repeats (source target : String) (moves : List (String × String)) (m m' : Memory) :
    Prop where
  arrived : ∀ id newId x, (id, newId) ∈ moves → m.message? source id = some x →
    m'.message? target newId = some (x.under newId)
  gone : ∀ id ∈ moves.map Prod.fst, m'.message? source id = none
  stayed : ∀ id ∉ moves.map Prod.fst, m'.message? source id = m.message? source id
  spared : ∀ newId, (∀ id, (id, newId) ∈ moves → m.message? source id = none) →
    m'.message? target newId = m.message? target newId
  others : ∀ folder, folder ≠ source → folder ≠ target → m'.folders[folder]? = m.folders[folder]?

/-- Each moved message is still in its old place or already in the new one. -/
def Present (source target : String) (moves : List (String × String)) (m m' : Memory) : Prop :=
  ∀ id newId x, (id, newId) ∈ moves → m.message? source id = some x →
    m'.message? source id = some x ∨ m'.message? target newId = some (x.under newId)

theorem Repeats.present {m' : Memory} (h : Repeats source target moves m m') :
    Present source target moves m m' :=
  fun id newId x hmove hx => .inr (h.arrived id newId x hmove hx)

theorem repeats_after (hne : source ≠ target) (ht : target ∈ m.folders)
    (hnodup : (moves.map Prod.snd).Nodup) :
    Repeats source target moves m
      (m.after (copies m source target moves ++ removal source moves)) := by
  have htarget (id : String) :
      (m.after (copies m source target moves ++ removal source moves)).message? target id =
        (m.after (copies m source target moves)).message? target id := by
    rw [Memory.after_append, Memory.message?_after_of_edits_of_ne (fun _ => edits_removal) hne]
  have hsource (id : String) :
      (m.after (copies m source target moves ++ removal source moves)).message? source id =
        if id ∈ moves.map Prod.fst then none else m.message? source id := by
    rw [Memory.after_append, message?_after_removal,
      Memory.message?_after_of_edits_of_ne (fun _ => edits_copies) hne.symm]
  refine ⟨fun id newId x hmove hx => ?_, fun id hid => ?_, fun id hid => ?_, fun newId h => ?_,
    fun folder hs ht => ?_⟩
  · exact (htarget newId).trans (message?_after_copies ht hnodup hmove hx)
  · rw [hsource, if_pos hid]
  · rw [hsource, if_neg hid]
  · exact (htarget newId).trans (message?_after_copies_of_no_copy ht h)
  · rw [Memory.after_append, Memory.getElem?_after_of_edits_of_ne (fun _ => edits_removal) hs.symm,
      Memory.getElem?_after_of_edits_of_ne (fun _ => edits_copies) ht.symm]

/-- Moves are repeated in full, and wherever that breaks off each message is present. -/
theorem relocate_repeats (hne : source ≠ target) (ht : target ∈ w.mailbox.folders)
    (hnodup : (moves.map Prod.snd).Nodup) :
    ∃ u, (relocate source target moves).runIn s w = (.ok (), u) ∧
      Repeats source target moves w.mailbox u.mailbox ∧
      ∀ m ∈ (relocate source target moves).stages s w,
        Present source target moves w.mailbox m := by
  have hrun := runIn_relocate (s := s) hne ht moves
  have hrepeats := repeats_after hne ht hnodup
  refine ⟨_, hrun, hrepeats, fun m hm => ?_⟩
  obtain ⟨k, rfl⟩ := Operation.mailbox_of_mem_stages (congrArg Prod.snd hrun) hm
  rcases Nat.lt_or_ge (copies w.mailbox source target moves).length k with hk | hk
  · -- The removal is one call: once it is made all is done.
    have hlength : (removal source moves).length ≤ 1 := by
      unfold removal
      split_ifs
      · exact Nat.zero_le _
      · exact Nat.le_refl _
    rw [List.take_of_length_le (by rw [List.length_append]; omega)]
    exact hrepeats.present
  · rw [List.take_append_of_le_length hk]
    intro id newId x _ hx
    refine .inl ((Memory.message?_after_of_edits_of_ne ?_ hne.symm _ id).trans hx)
    exact fun c hc => edits_copies (List.mem_of_mem_take hc)

/-! ### The exchange -/

/-- The request for moves as it is posted. -/
def wire (settings : ProtocolSettings) (source target : String) (ids : List String) :
    MailSync.Request :=
  Exchange.request "MoveItems" (request (ids.map fun id => ⟨id, source, target⟩))
    settings.commandTimeout

/-- What a reply to a request for moves comes to. -/
def outcome (result : Except TransportError Reply) : Except Failure (List Response) := do
  let root ← Exchange.required "MoveItems" (← Exchange.documentOf "MoveItems" result)
  match (root.childNumber? CodePage.Moves.status).bind Verdict.ofGlobal? with
  | some verdict => .error ⟨verdict, "MoveItems rejected"⟩
  | none => Exchange.ofDocument (responsesOfDocument root)

theorem run_exchange (hs : s.Solitary) (settings : ProtocolSettings) (source target : String)
    (ids : List String) (account : Account) (w : World Memory) :
    ∃ result cancelled,
      (exchange settings (ids.map fun id => ⟨id, source, target⟩) account).run s w =
        (outcome result,
          w.exchanged account (wire settings source target ids) result cancelled) := by
  obtain ⟨r, c, h⟩ := Exchange.run_post hs account (wire settings source target ids) w
  refine ⟨r, c, ?_⟩
  change (Exchange.post account (wire settings source target ids) >>= _).run s w = _
  rw [Program.run_bind, h]
  rfl

end Relocation

namespace World
variable {ε : Type} {outcome : Except TransportError Reply → Except Failure ε}
  {w v u : World Memory}

/-- Since a world the server has answered a request by demanding the policy handshake. -/
def Demanded (w v : World Memory) (request : Request)
    (outcome : Except TransportError Reply → Except Failure ε) : Prop :=
  ∃ reply f, (request, reply) ∈ w.since v ∧ outcome reply = .error f ∧
    f.verdict = .provisioningRequired

/-- Since a world each request of a command was answered like that. -/
def PutOff (w v : World Memory) (command : String)
    (outcome : Except TransportError Reply → Except Failure ε) : Prop :=
  ∀ x ∈ w.since v, x.1.command = command →
    ∃ f, outcome x.2 = .error f ∧ f.verdict = .provisioningRequired

theorem Demanded.mono {request : Request} (h : w.Demanded v request outcome)
    (hvu : v.history <+: u.history) : w.Demanded u request outcome := by
  obtain ⟨reply, f, hmem, hf⟩ := h
  exact ⟨reply, f, (World.since_prefix hvu).subset hmem, hf⟩

theorem PutOff.of_exchanges (h : v.exchanges = w.exchanges) (command : String) :
    w.PutOff v command outcome := by
  rw [PutOff, since_eq (h.trans (List.append_nil _).symm)]
  exact List.forall_mem_nil _

theorem PutOff.quiet {command : String} (h : w.PutOff v command outcome)
    (hwv : w.history <+: v.history) (hq : v.Quiet command u) : w.PutOff u command outcome := by
  intro x hx hcommand
  rw [since_append hwv hq.history] at hx
  rcases List.mem_append.mp hx with hx | hx
  · exact h x hx hcommand
  · exact absurd hcommand (hq.since x hx)

end World

/-- An exchange without a key is one request, or a second one after the handshake that the reply to
the first demands. -/
theorem Session.ensures_exchange {ε : Type} (hs : s.Solitary) (sess : Session)
    {op : Account → Program (Except Failure ε)} {request : Request}
    {outcome : Except TransportError Reply → Except Failure ε}
    (hcommand : request.command ≠ "Provision")
    (hop : ∀ account w, ∃ reply c, (op account).run s w =
      (outcome reply, w.exchanged account request reply c)) (w : World Memory) :
    Ensures (sess.exchange op) s w
      (fun o v => ∃ u account reply c, w.Held u ∧ (u = w ∨ w.Demanded u request outcome) ∧
        w.PutOff u request.command outcome ∧ o = outcome reply ∧
        v = u.exchanged account request reply c)
      fun _ v => w.PutOff v request.command outcome := by
  have hrun (account : Account) (u : World Memory) : ∃ reply c,
      (Operation.ofProgram (op account)).runIn s u =
        (.ok (outcome reply), u.exchanged account request reply c) := by
    obtain ⟨reply, c, h⟩ := hop account u
    exact ⟨reply, c, by rw [Operation.runIn_ofProgram, h]⟩
  obtain ⟨reply, c, hfirst⟩ := hrun (sess.accountIn w.mailbox) w
  refine .bind_ok sess.runIn_snapshot (.bind_ok hfirst ?_)
  have hdone : ∃ u account reply' c', w.Held u ∧ (u = w ∨ w.Demanded u request outcome) ∧
      w.PutOff u request.command outcome ∧ outcome reply = outcome reply' ∧
      w.exchanged (sess.accountIn w.mailbox) request reply c =
        u.exchanged account request reply' c' :=
    ⟨w, _, reply, c, .refl w, .inl rfl, .of_exchanges rfl _, rfl, rfl⟩
  cases ho : outcome reply with
  | ok responses => exact .pure (ho ▸ hdone)
  | error f =>
    simp only
    split_ifs with hdemand
    · have hheld := (World.Still.exchanged w (sess.accountIn w.mailbox) request reply c).held
      have hone : w.since (w.exchanged (sess.accountIn w.mailbox) request reply c) =
          [(request, reply)] := World.since_eq (World.exchanges_exchanged ..)
      have hputOff : w.PutOff (w.exchanged (sess.accountIn w.mailbox) request reply c)
          request.command outcome := by
        rw [World.PutOff, hone]
        exact List.forall_mem_singleton.mpr fun _ => ⟨f, ho, hdemand.1⟩
      have hprovision := ((sess.ensures_provision hs _).mono (fun _ _ h => h) fun _ _ _ =>
        trivial).and_always (sess.quiet_provision hs request.command hcommand
          (w.exchanged (sess.accountIn w.mailbox) request reply c))
      refine (hprovision.mono (fun _ _ h => h) fun _ _ h => hputOff.quiet hheld.history h.2).bind ?_
      rintro - v ⟨hv, hquiet⟩
      obtain ⟨reply', c', hsecond⟩ := hrun (sess.accountIn v.mailbox) v
      refine .bind_ok sess.runIn_snapshot (.of_ok hsecond ?_)
      refine ⟨v, _, reply', c', hheld.trans hv, .inr ⟨reply, f, ?_, ho, hdemand.1⟩,
        hputOff.quiet hheld.history hquiet, rfl, rfl⟩
      rw [World.since_append hheld.history hv.history, hone]
      exact List.mem_append_left _ (List.mem_singleton_self _)
    · exact .pure (ho ▸ hdone)

namespace Relocation

/-- A request for moves was answered, in a mailbox with the same messages as before. It is the same
mailbox, unless the server has asked for the policy handshake first. -/
def Answered (sess : Session) (source target : String) (ids : List String) (w u : World Memory)
    (reply : Except TransportError Reply) : Prop :=
  ∃ x account c, w.Held x ∧
    (x.mailbox = w.mailbox ∨ w.Demanded x (wire sess.settings source target ids) outcome) ∧
    u = x.exchanged account (wire sess.settings source target ids) reply c

/-- What moves come to, by the reply to the request: from the mailbox before and the world of the
reply to the mailbox afterwards. -/
def Settles (source target : String) (ids : List String) (m : Memory) (u : World Memory)
    (o : MoveOutcome) (m' : Memory) : Except Failure (List Response) → Prop
  | .ok responses =>
    (∀ id newId, (id, newId) ∈ o.moved ↔ id ∈ ids ∧
      ∃ r, responses.find? (·.message = id) = some r ∧
        (r.status = 3 ∨ r.status = 4 ∨ r.status = 6) ∧ r.newId = some newId) ∧
    (∀ s, ((relocate source target o.moved).runIn s u).2.mailbox = m') ∧
    ((o.moved.map Prod.snd).Nodup → ∀ order, order.Perm o.moved → ∀ s, ∃ v,
      (relocate source target order).runIn s u = (.ok (), v) ∧
        Repeats source target o.moved m v.mailbox ∧
        ∀ m'' ∈ (relocate source target order).stages s u, Present source target o.moved m m'')
  | .error f => (∃ fault, f.verdict = .network fault) ∧ o = ⟨[], ids, []⟩ ∧ m' = u.mailbox

theorem Repeats.of_perm {order : List (String × String)} {m' : Memory}
    (h : Repeats source target order m m') (hperm : order.Perm moves) :
    Repeats source target moves m m' where
  arrived id newId x hmove := h.arrived id newId x (hperm.mem_iff.mpr hmove)
  gone id hid := h.gone id ((hperm.map Prod.fst).mem_iff.mpr hid)
  stayed id hid := h.stayed id fun hid' => hid ((hperm.map Prod.fst).mem_iff.mp hid')
  spared newId hfree := h.spared newId fun id hmove => hfree id (hperm.mem_iff.mp hmove)
  others := h.others

theorem Repeats.of_sameButPolicy {m₀ m' : Memory} (h : Repeats source target moves m m')
    (hm : m₀.SameButPolicy m) : Repeats source target moves m₀ m' where
  arrived id newId x hmove hx := h.arrived id newId x hmove ((hm.message? source id).trans hx)
  gone := h.gone
  stayed id hid := (h.stayed id hid).trans (hm.message? source id)
  spared newId hfree :=
    (h.spared newId fun id hmove => (hm.message? source id).trans (hfree id hmove)).trans
      (hm.message? target newId)
  others folder hs ht := (h.others folder hs ht).trans (by rw [hm.folders])

/-- In whichever order the moves are repeated, they settle what was asked for. -/
theorem settles_outcomeOf (hne : source ≠ target) {u : World Memory}
    (ht : target ∈ u.mailbox.folders) (hm : m.SameButPolicy u.mailbox) (responses : List Response)
    (ids : List String) {m' : Memory}
    (hm' : ∀ s, ((relocate source target (outcomeOf responses ids).moved).runIn s u).2.mailbox =
      m') :
    Settles source target ids m u (outcomeOf responses ids) m' (.ok responses) := by
  have hsorts := sorts_outcomeOf responses ids
  refine ⟨fun id newId => ?_, hm', fun hnodup order hperm s => ?_⟩
  · rw [hsorts.moved, confirmed?_eq_some_iff]
  · have horder := (hperm.map Prod.snd).nodup_iff.mpr hnodup
    obtain ⟨v, hrun, hrepeats, hpresent⟩ := relocate_repeats (s := s) hne ht horder
    refine ⟨v, hrun, (hrepeats.of_perm hperm).of_sameButPolicy hm, fun m'' hm'' => ?_⟩
    intro id newId x hmove hx
    exact hpresent m'' hm'' id newId x (hperm.mem_iff.mpr hmove) ((hm.message? source id).trans hx)

/-- How moves end well: nothing was asked for, or the request was answered and its moves settled. -/
def Ends (sess : Session) (source target : String) (ids : List String) (w : World Memory)
    (o : MoveOutcome) (v : World Memory) : Prop :=
  ids = [] ∧ o = .none ∧ v = w ∨
    ∃ u reply, Answered sess source target ids w u reply ∧ u.history <+: v.history ∧
      Settles source target ids w.mailbox u o v.mailbox (outcome reply)

/-- Since a world the network has failed a request for moves. -/
def Unreached (w v : World Memory) : Prop :=
  ∃ x ∈ w.since v, x.1.command = "MoveItems" ∧
    ∃ f fault, outcome x.2 = .error f ∧ f.verdict = .network fault

/-- What is written does not count. -/
theorem unreached_written (u : World Memory) (calls : List Call) :
    Unreached w (u.written calls) ↔ Unreached w u := by
  rw [Unreached, World.since, World.exchanges_written]
  rfl

theorem not_unreached_of_putOff {v : World Memory} (h : w.PutOff v "MoveItems" outcome) :
    ¬Unreached w v := by
  rintro ⟨x, hx, hcommand, f, fault, hf, hv⟩
  obtain ⟨f', hf', hv'⟩ := h x hx hcommand
  obtain rfl := Except.error.inj (hf.symm.trans hf')
  cases hv.symm.trans hv'

/-- Where the first request was put off, it is the last one that the network fails. -/
theorem failed_of_unreached {u : World Memory} (h : w.PutOff u "MoveItems" outcome)
    (hu : w.history <+: u.history) {account : Account} {request : MailSync.Request}
    {reply : Except TransportError Reply} {c : Bool}
    (hno : Unreached w (u.exchanged account request reply c)) :
    ∃ f fault, outcome reply = .error f ∧ f.verdict = .network fault := by
  obtain ⟨x, hx, hcommand, hfailed⟩ := hno
  rw [World.since_append hu (List.prefix_append ..),
    World.since_eq (World.exchanges_exchanged ..)] at hx
  rcases List.mem_append.mp hx with hx | hx
  · exact absurd ⟨x, hx, hcommand, hfailed⟩ (not_unreached_of_putOff h)
  · obtain rfl := List.mem_singleton.mp hx
    exact hfailed

/-- What comes of moves that the network fails: all are to be tried again, and nothing is stored,
except for a policy key where the server has first asked for the handshake. -/
structure Postponed (sess : Session) (source target : String) (ids : List String)
    (w : World Memory) (o : MoveOutcome) (v : World Memory) : Prop where
  outcome : o = ⟨[], ids, []⟩
  mailbox : w.mailbox.SameButPolicy v.mailbox
  policy : v.mailbox = w.mailbox ∨
    w.Demanded v (wire sess.settings source target ids) Relocation.outcome

/-- What holds of moves that end well. -/
structure Concluded (sess : Session) (source target : String) (ids : List String)
    (w : World Memory) (o : MoveOutcome) (v : World Memory) : Prop where
  sorts : ∃ responses, Sorts responses ids o
  ends : Ends sess source target ids w o v
  postponed : Unreached w v → Postponed sess source target ids w o v

namespace Answered
variable {sess : Session} {w u : World Memory} {reply : Except TransportError Reply}

theorem sameButPolicy (h : Answered sess source target ids w u reply) :
    w.mailbox.SameButPolicy u.mailbox := by
  obtain ⟨x, account, c, hheld, -, rfl⟩ := h
  exact hheld.mailbox

theorem policy (h : Answered sess source target ids w u reply) : u.mailbox = w.mailbox ∨
    w.Demanded u (wire sess.settings source target ids) outcome := by
  obtain ⟨x, account, c, -, hasked, rfl⟩ := h
  exact hasked.imp_right fun hdemanded => hdemanded.mono (List.prefix_append ..)

/-- The server has told what became of the messages, so the network failed nothing. In the end the
lock is given back. -/
theorem concluded_of_ok (h : Answered sess source target ids w u reply) {responses : List Response}
    (hne : source ≠ target) (ht : target ∈ w.mailbox.folders) (ho : outcome reply = .ok responses)
    (hno : ¬Unreached w u) (locks : Locks) :
    Concluded sess source target ids w (outcomeOf responses ids)
      { u.written (copies u.mailbox source target (outcomeOf responses ids).moved ++
          removal source (outcomeOf responses ids).moved) with locks } where
  sorts := ⟨responses, sorts_outcomeOf responses ids⟩
  ends := by
    refine .inr ⟨u, reply, h, List.prefix_append .., ?_⟩
    have htu : target ∈ u.mailbox.folders := h.sameButPolicy.folders ▸ ht
    rw [ho]
    refine settles_outcomeOf hne htu h.sameButPolicy responses ids fun s => ?_
    rw [runIn_relocate hne htu]
  postponed hreached := absurd ((unreached_written u _).mp hreached) hno

/-- The network failed the request. -/
theorem concluded_of_network (h : Answered sess source target ids w u reply) {f : Failure}
    {fault : NetworkFault} (ho : outcome reply = .error f) (hf : f.verdict = .network fault)
    (locks : Locks) : Concluded sess source target ids w ⟨[], ids, []⟩ { u with locks } where
  sorts := ⟨[], sorts_unanswered ids⟩
  ends := by
    refine .inr ⟨u, reply, h, List.prefix_rfl, ?_⟩
    rw [ho]
    exact ⟨⟨fault, hf⟩, rfl, rfl⟩
  postponed _ := ⟨rfl, h.sameButPolicy, h.policy⟩

end Answered

theorem ensures_moveMessages (hs : s.Solitary) (sess : Session) (source target : String)
    (ids : List String) (w : World Memory) :
    Ensures (moveMessages sess source target ids) s w
      (fun o v => Concluded sess source target ids w o v) fun _ v => ¬Unreached w v := by
  have hnothing : ¬Unreached w w := not_unreached_of_putOff (.of_exchanges rfl _)
  unfold moveMessages
  split_ifs with hne hempty
  · exact .throw hnothing
  · have hids : ids = [] := List.isEmpty_iff.mp hempty
    refine .pure ⟨⟨[], hids ▸ sorts_outcomeOf [] []⟩, .inl ⟨hids, rfl, rfl⟩, ?_⟩
    exact fun h => absurd h hnothing
  refine .bind (.requireFolder (Q := fun _ v => w = v) (fun _ => rfl) fun _ => hnothing) ?_
  rintro - _ rfl
  refine .bind (.requireFolder (Q := fun _ v => w = v ∧ target ∈ w.mailbox.folders)
    (fun ht => ⟨rfl, ht⟩) fun _ => hnothing) ?_
  rintro - _ ⟨rfl, ht⟩
  refine .withLock hnothing fun locks _ => ?_
  have hexchange := sess.ensures_exchange hs (show "MoveItems" ≠ "Provision" by decide)
    (run_exchange hs sess.settings source target ids) { w with locks }
  refine (hexchange.mono (fun _ _ h => h) fun _ _ h => not_unreached_of_putOff h).bind ?_
  rintro _ u ⟨x, account, reply, c, hheld, hasked, hputOff, rfl, hu⟩
  have hanswered : Answered sess source target ids w u reply :=
    ⟨x, account, c, ⟨hheld.history, hheld.mailbox⟩, hasked.imp_left fun hx => by rw [hx], hu⟩
  have hfailed (hno : Unreached w u) :
      ∃ f fault, outcome reply = .error f ∧ f.verdict = .network fault := by
    rw [hu] at hno
    exact failed_of_unreached hputOff hheld.history hno
  cases ho : outcome reply with
  | ok responses =>
    have hno : ¬Unreached w u := fun hno => by
      obtain ⟨f, fault, hf, -⟩ := hfailed hno
      cases hf.symm.trans ho
    have htu : target ∈ u.mailbox.folders := hanswered.sameButPolicy.folders ▸ ht
    exact .bind_ok (runIn_relocate hne htu _) (.pure (hanswered.concluded_of_ok hne ht ho hno _))
  | error f =>
    simp only
    split
    · rename_i fault hf
      exact .pure (hanswered.concluded_of_network ho hf _)
    · rename_i hother
      refine .throw fun hno => ?_
      obtain ⟨f', fault, hf, hv⟩ := hfailed hno
      exact hother fault (Except.error.inj (hf.symm.trans ho) ▸ hv)

/-- Moves lose nothing and duplicate nothing. Where they end well, each message asked for is
recorded in one place, as the first response for it says; and where the new ids differ the moves can
be repeated in any order: each message ends up in its new place alone, and is at no point in
neither. If the network fails the request they do end well: all messages are to be tried again and
nothing is stored. -/
theorem moves_lose_nothing (hs : s.Solitary) (sess : Session) {source target : String}
    {ids : List String} {w v : World Memory} {result : Except SyncError MoveOutcome}
    (h : (moveMessages sess source target ids).runIn s w = (result, v)) :
    (∀ o, result = .ok o →
      (∀ id ∈ ids, ExactlyOne (id ∈ o.moved.map Prod.fst) (id ∈ o.retry) (id ∈ o.revert)) ∧
      (o.moved.map Prod.fst).Nodup ∧ Ends sess source target ids w o v) ∧
    (Unreached w v → ∃ o, result = .ok o ∧ Postponed sess source target ids w o v) := by
  have hmoves := ensures_moveMessages hs sess source target ids w
  constructor
  · rintro o rfl
    obtain ⟨responses, hsorts⟩ := (hmoves.ok h).sorts
    exact ⟨fun _ => hsorts.exactlyOne, hsorts.keys, (hmoves.ok h).ends⟩
  · intro hno
    cases result with
    | ok o => exact ⟨o, rfl, (hmoves.ok h).postponed hno⟩
    | error e => exact absurd hno (hmoves.error h)

/-- Two folders with two messages in the first. -/
def stocked : World Memory :=
  .start ((World.inbox.mailbox.create ⟨"10", "Old", .regular, none⟩).after
    [.saveMessage "5" (.blank "5:1") .complete, .saveMessage "5" (.blank "5:2") .truncated])

/-- A server that answers in another order, for one message twice and for two not at all. -/
def sorting : Script Memory where
  replies := [.ok ⟨200, (responsesToDocument [⟨"5:2", 4, some "10:2"⟩, ⟨"5:1", 3, some "10:1"⟩,
    ⟨"5:1", 1, none⟩, ⟨"5:4", 5, none⟩]).encode⟩]
  meanwhile := []
  id := ""

/-- What is answered is sorted, and without an answer all is to be tried again. -/
theorem sorting_loses_nothing :
    sorting.surroundings.Solitary ∧
    ∃ v, (moveMessages .sample "5" "10" ["5:1", "5:3", "5:1", "5:2", "5:4", "5:5"]).runIn
        sorting.surroundings stocked =
          (.ok ⟨[("5:1", "10:1"), ("5:2", "10:2")], ["5:3", "5:5"], ["5:4"]⟩, v) ∧
      v.mailbox.message? "5" "5:2" = none ∧
      v.mailbox.message? "10" "10:2" = some ⟨.blank "10:2", .truncated⟩ ∧
      ExactlyOne ("5:1" ∈ ["5:1", "5:2"]) ("5:1" ∈ ["5:3", "5:5"]) ("5:1" ∈ ["5:4"]) ∧
      ∃ o, ((moveMessages .sample "5" "10" ["5:1"]).runIn .silent stocked).1 = .ok o ∧
        o.retry = ["5:1"] := by
  have hs : sorting.surroundings.Solitary := Script.solitary_surroundings fun _ h => nomatch h
  have hrun : (moveMessages .sample "5" "10" ["5:1", "5:3", "5:1", "5:2", "5:4", "5:5"]).runIn
      sorting.surroundings stocked =
        (.ok ⟨[("5:1", "10:1"), ("5:2", "10:2")], ["5:3", "5:5"], ["5:4"]⟩,
          ((moveMessages .sample "5" "10" ["5:1", "5:3", "5:1", "5:2", "5:4", "5:5"]).runIn
            sorting.surroundings stocked).2) := Prod.ext rfl rfl
  have hsilent : (Surroundings.silent : Surroundings Memory).Solitary :=
    Script.solitary_surroundings fun _ h => nomatch h
  have hno : Unreached stocked ((moveMessages .sample "5" "10" ["5:1"]).runIn .silent stocked).2 :=
    ⟨_, List.mem_singleton_self _, rfl, _, .connectionFailed, rfl, rfl⟩
  obtain ⟨o, ho, hpostponed⟩ := (moves_lose_nothing hsilent .sample rfl).2 hno
  refine ⟨hs, _, hrun, rfl, rfl, ?_, o, ho, by rw [hpostponed.outcome]⟩
  exact ((moves_lose_nothing hs .sample hrun).1 _ rfl).1 "5:1" List.mem_cons_self

end Relocation
end MailSync
