import MailSync.Proofs.Collection.Requests
import MailSync.Proofs.Relocation.Keeping
import MailSync.Proofs.RemoteWipe
import MailSync.Proofs.Rounds

/-!
# Tokens that come back

Keys and ids are the server's own words, and later requests say them again. The wire takes the NUL
characters out of a text and nothing else, so a token without any is read as it was taken, wherever
it is said: as the key of the next round, as the id in a command, as the message of a move. Two ids
without any are never taken for one another.
-/
namespace MailSync
open CodePage
open Mailbox (Memory hierarchyKeyMark)
open Operation (Ensures Only)
open Wbxml (Element)

variable {s : Surroundings Memory}

/-! ### What is posted -/

/-- Whatever is posted has a property. -/
def Effect.Posts (P : Request → Prop) : Effect → Prop
  | .post _ request => P request
  | _ => True

/-- A later world; each request in between has a property. -/
structure World.Posted (P : Request → Prop) (w v : World Memory) : Prop where
  history : w.history <+: v.history
  since : ∀ x ∈ w.since v, P x.1

namespace World.Posted
variable {P : Request → Prop} {w v u : World Memory}

theorem of_quiet (h : ∀ command, w.Quiet command v) : w.Posted P v where
  history := (h "").history
  since x hx := absurd rfl ((h x.1.command).since x hx)

theorem of_exchanges (hh : w.history <+: v.history) (h : v.exchanges = w.exchanges) :
    w.Posted P v := of_quiet fun _ => .of_exchanges hh h

theorem of_eq (h : v.history = w.history) : w.Posted P v :=
  of_exchanges (h ▸ List.prefix_rfl) (by rw [World.exchanges, World.exchanges, h])

theorem refl (P : Request → Prop) (w : World Memory) : w.Posted P w := .of_eq rfl

theorem trans (h : w.Posted P v) (h' : v.Posted P u) : w.Posted P u where
  history := h.history.trans h'.history
  since x hx := by
    rw [World.since_append h.history h'.history] at hx
    exact (List.mem_append.mp hx).elim (h.since x) (h'.since x)

theorem exchanged {request : Request} (h : P request) (w : World Memory) (account : Account)
    (result : Except TransportError Reply) (cancelled : Bool) :
    w.Posted P (w.exchanged account request result cancelled) where
  history := List.prefix_append ..
  since x hx := by
    rw [World.since_eq (World.exchanges_exchanged ..)] at hx
    exact List.mem_singleton.mp hx ▸ h

end World.Posted

theorem Effect.posted_perform (hs : s.Solitary) {P : Request → Prop} {e : Effect} (h : e.Posts P)
    (w : World Memory) : w.Posted P (e.perform s w).2 := by
  have hquiet (h : ∀ command, e.Avoids command) : w.Posted P (e.perform s w).2 :=
    .of_quiet fun command => Effect.quiet_perform hs (h command) w
  cases e with
  | post account request =>
    obtain ⟨r, c, hr⟩ := Effect.perform_post hs account request w
    rw [hr]
    exact .exchanged h w account r c
  | _ => exact hquiet fun _ => trivial

theorem Operation.Only.posted (hs : s.Solitary) {P : Request → Prop} {α : Type} {op : Operation α}
    (h : Only (Effect.Posts P) op) (w : World Memory) : w.Posted P (op.runIn s w).2 :=
  Program.Only.run (World.Posted.refl P) (fun _ _ _ => World.Posted.trans)
    (fun _ he w => Effect.posted_perform hs he w) h w

theorem Session.only_exchange {A : Effect → Prop} {α : Type} (sess : Session)
    (hprovision : Only A sess.provision) (hask : ∀ key, A (.ask (.extra key)))
    {op : Account → Program (Except Failure α)} (hop : ∀ account, (op account).Only A) :
    Only A (sess.exchange op) := by
  have hone (account : Account) : Only A (Operation.ofProgram (op account)) :=
    .ofProgram (hop account)
  refine (sess.only_snapshot hask).bind fun account => (hone account).bind fun result => ?_
  cases result with
  | ok a => exact .pure _
  | error f =>
    simp only
    split_ifs
    · exact hprovision.bind fun _ => (sess.only_snapshot hask).bind hone
    · exact .pure _

/-! ### Messages -/

namespace Collection
variable {sess : Session} {folder : String} {errand : Errand}

/-- The ids that the commands of a request name. -/
def idsIn (document : Element) : List String :=
  (commandsIn document).filterMap (·.childText? AirSync.serverId)

theorem Command.childText?_toElement (c : Command) :
    c.toElement.childText? AirSync.serverId = some c.id := by cases c <;> rfl

theorem Command.id_withoutNul (c : Command) : c.withoutNul.id = Text.withoutNul c.id := by
  cases c <;> rfl

theorem idsIn_toDocument (r : Request) (key : String) (initial : Bool) :
    idsIn (r.toDocument key initial) = if initial then [] else r.commands.map Command.id := by
  rw [idsIn, commandsIn_toDocument]
  cases initial with
  | true => rfl
  | false => simp [List.filterMap_map, Command.childText?_toElement]

/-- The ids that the server reads in a request are those of the errand, or none. -/
def Names (errand : Errand) (request : MailSync.Request) : Prop :=
  request.command = "Sync" → ∃ root, Wbxml.decode request.body = .ok root ∧
    (idsIn root = [] ∨ idsIn root = errand.commands.map fun c => Text.withoutNul c.id)

theorem names_wire (settings : ProtocolSettings) {r : Request} (h : Runs errand r.commands)
    (key : Option String) : Names errand (wire settings r key) := by
  intro _
  refine ⟨_, Request.decode_encode_toDocument .., ?_⟩
  rw [idsIn_toDocument]
  cases SyncKey.isInitial key with
  | true => exact .inl rfl
  | false =>
    rcases h with h | h
    · exact .inl (by simp [Request.withoutNul, h])
    · refine .inr ?_
      simp [Request.withoutNul, h, Function.comp_def, Command.id_withoutNul]

theorem only_pass_names (sess : Session) (folder : String) (errand : Errand) :
    Only (Effect.Posts (Names errand)) (pass sess folder errand) := by
  refine only_pass (fun _ q hq => ?_) (fun _ _ key hr => names_wire _ hr key)
    (fun _ => trivial) trivial (fun _ => trivial) fun _ => trivial
  rcases hq with hq | hq
  · exact fun hsync => absurd (hq.symm.trans hsync) (by decide)
  · exact fun hsync => absurd (hq.symm.trans hsync) (by decide)

/-- A request states the key in use as the server reads it. -/
theorem Says.keyIn_eq {window : Window} {st : Standing} {root : Element}
    (h : Says folder window st root) {key : String} (hkey : st.key = some key) (hne : key ≠ "") :
    keyIn root = some (Text.withoutNul key) := by
  cases hi : SyncKey.isInitial st.key with
  | false => rw [h.key hi, hkey, Option.map_some]
  | true =>
    have hinitial : key = SyncKey.initial := by
      rw [hkey] at hi
      simpa [SyncKey.isInitial, hne] using hi
    rw [keyIn, h.fresh hi, hinitial]
    rfl

end Collection

/-! ### Folders -/

namespace Hierarchy
variable {sess : Session} {stored : Option String}

theorem decode_encode_request (key : String) :
    Wbxml.decode (request key).encode = .ok (request (Text.withoutNul key)) := by
  have hplain : (request key).withoutNul = request (Text.withoutNul key) := by
    simp only [request, Element.withoutNul_node, List.map_cons, List.map_nil,
      Element.withoutNul_text]
  have hfaithful : (request key).withoutNul.Faithful 1 := by
    rw [hplain]
    refine Element.faithful_node (by decide) (List.forall_mem_singleton.mpr ?_)
    exact Element.faithful_text (by decide) (Text.noNul_withoutNul key)
  rw [Element.decode_encode_of_withoutNul (hfaithful.mono (by decide)), hplain]

/-- The key that the server reads in a request is the stored one, or that of a fresh start. -/
def States (stored : Option String) (q : MailSync.Request) : Prop :=
  q.command = "FolderSync" → ∃ root, Wbxml.decode q.body = .ok root ∧
    (root.childText? FolderHierarchy.syncKey = some "0" ∨
      ∃ key, stored = some key ∧
        root.childText? FolderHierarchy.syncKey = some (Text.withoutNul key))

theorem states_wire (settings : ProtocolSettings) {key : Option String}
    (h : key = stored ∨ key = none) : States stored (wire settings key) := by
  intro _
  refine ⟨_, decode_encode_request _, ?_⟩
  change some (Text.withoutNul (SyncKey.sent key)) = _ ∨
    ∃ k, _ ∧ some (Text.withoutNul (SyncKey.sent key)) = _
  cases hi : SyncKey.isInitial key with
  | true =>
    rw [SyncKey.sent_of_isInitial hi]
    exact .inl rfl
  | false =>
    cases key with
    | none => cases hi
    | some key =>
      rw [SyncKey.sent_some hi]
      exact .inr ⟨key, (h.resolve_right nofun).symm, rfl⟩

theorem states_of_provision {q : MailSync.Request} (h : q.command = "Provision") :
    States stored q := fun hq => absurd (h.symm.trans hq) (by decide)

theorem carries_states (hs : s.Solitary) (sess : Session) (stored : Option String)
    (w : World Memory) :
    (rounds sess).Carries s sess
      (fun p v => (p.key = stored ∨ p.key = none) ∧ w.Posted (States stored) v)
      (fun _ v => w.Posted (States stored) v) fun _ v => w.Posted (States stored) v := by
  have hreplied {p : Progress} {v : World Memory}
      (hv : (p.key = stored ∨ p.key = none) ∧ w.Posted (States stored) v) (r c) :
      w.Posted (States stored) ((rounds sess).replied sess p v r c) :=
    hv.2.trans (.exchanged (states_wire sess.settings hv.1) v _ r c)
  refine { look := fun c h => ⟨h.1, h.2.trans (.of_eq rfl)⟩, stop := And.right, limit := And.right
           drop := fun r c h => hreplied h r c, step := fun {p v} r c h => ?_ }
  have hv := hreplied h r c
  have hleads := p.leads_next sess.mayProvision (outcome (SyncKey.isInitial p.key) r)
  rw [rounds_step]
  generalize ho : outcome (SyncKey.isInitial p.key) r = o at hleads ⊢
  generalize p.next sess.mayProvision o = next at hleads ⊢
  cases hleads with
  | more more => exact absurd more (Bool.eq_false_iff.mp (more_of_outcome ho))
  | done => exact hv
  | restart => exact ⟨.inr rfl, hv⟩
  | provision =>
    have hprovision : Only (Effect.Posts (States stored)) sess.provision :=
      sess.only_provision (fun _ _ => states_of_provision) fun _ => trivial
    have hposted := hv.trans (hprovision.posted hs _)
    refine Step.ensures_after ((Ensures.of_always hposted).mono ?_ fun _ _ hv => hv)
    exact fun _ _ hv => ⟨h.1, hv⟩
  | fail f => exact hv

/-- However a pass over the hierarchy ends, it has asked since the stored key or afresh. -/
theorem posted_pass (hs : s.Solitary) (sess : Session) (w : World Memory) :
    w.Posted (States w.mailbox.extras[hierarchyKeyMark]?) ((pass sess).runIn s w).2 := by
  have hcarries := carries_states hs sess w.mailbox.extras[hierarchyKeyMark]? w
  refine Ensures.always (ensures_pass_of_collect (.refl _ w) fun locks => ?_)
  have hstart : w.Posted (States w.mailbox.extras[hierarchyKeyMark]?) { w with locks } :=
    .of_eq rfl
  refine (hcarries.ensures hs sess.maxRounds ⟨.inl rfl, hstart⟩).mono
    (fun ⟨p, left⟩ v hv c l => ⟨hv.trans ?_, hv.trans (.of_eq rfl)⟩)
    fun _ _ hv l => hv.trans (.of_eq rfl)
  obtain ⟨-, hhistory, hexchanges⟩ :=
    landed_eq w.mailbox.extras[hierarchyKeyMark]? p { v with cancelled := c }
  exact .of_exchanges hhistory hexchanges

end Hierarchy

/-! ### Moves -/

namespace Relocation

def Item.withoutNul (i : Item) : Item :=
  ⟨Text.withoutNul i.message, Text.withoutNul i.source, Text.withoutNul i.target⟩

theorem Item.toElement_withoutNul (i : Item) : i.toElement.withoutNul = i.withoutNul.toElement := by
  simp only [toElement, withoutNul, Element.withoutNul_node, List.map_cons, List.map_nil,
    Element.withoutNul_text]

theorem Item.faithful_toElement (i : Item) : i.withoutNul.toElement.Faithful 1 := by
  refine Element.faithful_node (by decide) (List.forall_mem_cons.mpr ⟨?_, ?_⟩)
  · exact Element.faithful_text (by decide) (Text.noNul_withoutNul i.message)
  refine List.forall_mem_cons.mpr ⟨?_, List.forall_mem_singleton.mpr ?_⟩
  · exact Element.faithful_text (by decide) (Text.noNul_withoutNul i.source)
  · exact Element.faithful_text (by decide) (Text.noNul_withoutNul i.target)

theorem decode_encode_request (items : List Item) :
    Wbxml.decode (request items).encode = .ok (request (items.map Item.withoutNul)) := by
  have hplain : (request items).withoutNul = request (items.map Item.withoutNul) := by
    simp only [request, Element.withoutNul_node, List.map_map, Function.comp_def,
      Item.toElement_withoutNul]
  have hfaithful : (request items).withoutNul.Faithful 2 := by
    rw [hplain]
    refine Element.faithful_node (by decide) ?_
    exact List.forall_mem_map.mpr (List.forall_mem_map.mpr fun i _ => i.faithful_toElement)
  rw [Element.decode_encode_of_withoutNul (hfaithful.mono (by decide)), hplain]

/-- The messages that a request moves. -/
def movedIn (document : Element) : List String :=
  (document.findAll Moves.move).filterMap (·.childText? Moves.sourceMessage)

theorem movedIn_request (items : List Item) : movedIn (request items) = items.map (·.message) := by
  have hall : (request items).findAll Moves.move = items.map Item.toElement :=
    List.filter_eq_self.mpr (List.forall_mem_map.mpr fun i _ => rfl)
  have hmessage (i : Item) : i.toElement.childText? Moves.sourceMessage = some i.message := rfl
  rw [movedIn, hall, List.filterMap_map]
  simp [hmessage]

/-- The messages that the server reads in a request are these. -/
def Moving (ids : List String) (q : MailSync.Request) : Prop :=
  q.command = "MoveItems" → ∃ root, Wbxml.decode q.body = .ok root ∧
    movedIn root = ids.map Text.withoutNul

theorem moving_wire (settings : ProtocolSettings) (source target : String) (ids : List String) :
    Moving ids (wire settings source target ids) := by
  intro _
  refine ⟨_, decode_encode_request _, ?_⟩
  rw [movedIn_request]
  simp [Item.withoutNul, Function.comp_def]

theorem only_copy {A : Effect → Prop} (hask : ∀ call, A (.ask call))
    (source target id newId : String) : Only A (copy source target id newId) := by
  refine (Only.ask (hask _)).bind fun stored => ?_
  cases stored with
  | none => exact .pure ()
  | some stored => exact .ask (hask _)

theorem only_relocate {A : Effect → Prop} (hask : ∀ call, A (.ask call)) (source target : String)
    (moved : List (String × String)) : Only A (relocate source target moved) := by
  refine Only.bind (.forM fun _ _ => only_copy hask ..) fun _ => ?_
  split_ifs
  · exact .pure ()
  · exact .ask (hask _)

theorem only_moveMessages (sess : Session) (source target : String) (ids : List String) :
    Only (Effect.Posts (Moving ids)) (moveMessages sess source target ids) := by
  have hprovision : Only (Effect.Posts (Moving ids)) sess.provision := by
    refine sess.only_provision (fun _ q hq => ?_) fun _ => trivial
    exact fun hmove => absurd (hq.symm.trans hmove) (by decide)
  have hfolder (folder : String) : Only (Effect.Posts (Moving ids)) (requireFolder folder) :=
    Collection.only_requireFolder fun _ _ => trivial
  have hex (account : Account) : (exchange sess.settings (ids.map fun id => ⟨id, source, target⟩)
      account).Only (Effect.Posts (Moving ids)) :=
    (Exchange.only_post (moving_wire sess.settings source target ids)).bind fun _ => trivial
  unfold moveMessages
  split_ifs
  · exact .throw _
  · exact .pure _
  refine (hfolder source).bind fun _ => (hfolder target).bind fun _ => .withLock trivial trivial ?_
  refine (sess.only_exchange hprovision (fun _ => trivial) hex).bind fun result => ?_
  cases result with
  | ok responses => exact (only_relocate (fun _ => trivial) ..).bind fun _ => .pure _
  | error f =>
    simp only
    split
    · exact .pure _
    · exact .throw _

end Relocation

/-! ### Echoes -/

open Collection (Keyed dialogue keyIn idsIn) in
/-- What comes back of the server's tokens, whatever it answers and however an operation ends. Each
request of a pass over a folder states the key that the last accepted reply left, and a request with
commands names the messages of the errand; a pass over the hierarchy asks since the stored key; and
a request for moves names the messages to move. As the server reads it, each of these tokens is
what it was but for NUL characters, and so the same if it has none; an empty key is none. Two tokens
without NUL characters stay different. -/
theorem tokens_are_echoed (hs : s.Solitary) (sess : Session) (w : World Memory) :
    (∀ (folder : String) (errand : Collection.Errand) (xs : List Exchanged) (x : Exchanged)
      (ys : List Exchanged),
      w.since ((Collection.pass sess folder errand).runIn s w).2 = xs ++ x :: ys →
      x.1.command = "Sync" →
      Keyed folder ((dialogue folder (w.mailbox.key? folder)).along xs) ∧
      ∃ root, Wbxml.decode x.1.body = .ok root ∧
        (∀ key, ((dialogue folder (w.mailbox.key? folder)).along xs).key = some key →
          key ≠ "" → keyIn root = some (Text.withoutNul key)) ∧
        (idsIn root = [] ∨ idsIn root = errand.commands.map fun c => Text.withoutNul c.id)) ∧
      (∀ x ∈ w.since ((Hierarchy.pass sess).runIn s w).2,
        Hierarchy.States w.mailbox.extras[hierarchyKeyMark]? x.1) ∧
      (∀ source target ids,
        ∀ x ∈ w.since ((Relocation.moveMessages sess source target ids).runIn s w).2,
          Relocation.Moving ids x.1) ∧
      ∀ a b, Text.NoNul a → Text.NoNul b →
        Text.withoutNul a = a ∧ (a ≠ b → Text.withoutNul a ≠ Text.withoutNul b) := by
  refine ⟨fun folder errand xs x ys hx hcommand => ?_, ?_, fun source target ids => ?_,
    fun a b ha hb => ?_⟩
  · have hshape := (Collection.ensures_pass_shape hs sess folder errand w).always
    have hnames := (Collection.only_pass_names sess folder errand).posted hs w
    obtain ⟨root, hroot, said⟩ := hshape.stated xs x ys hx hcommand
    obtain ⟨root', hroot', hids⟩ := hnames.since x (by simp [hx]) hcommand
    obtain rfl := Except.ok.inj (hroot.symm.trans hroot')
    exact ⟨Collection.keyed_along folder _ xs, root, hroot,
      fun key hkey hne => said.keyIn_eq hkey hne, hids⟩
  · exact (Hierarchy.posted_pass hs sess w).since
  · exact ((Relocation.only_moveMessages sess source target ids).posted hs w).since
  · rw [ha.withoutNul_eq, hb.withoutNul_eq]
    exact ⟨rfl, id⟩

/-- A server that hands out a key, has more to come, and then another key. -/
def handingOut (key : Bytes) : Script Memory where
  replies := [.ok ⟨200, (Collection.wrap [.bytes AirSync.syncKey key,
      .text AirSync.collectionId "5", .number AirSync.status 1,
      .empty AirSync.moreAvailable]).encode⟩,
    Collection.Response.reply ⟨1, some "6", false, [], []⟩ "5"]
  meanwhile := []
  id := ""

theorem solitary_handingOut (key : Bytes) : (handingOut key).surroundings.Solitary :=
  Script.solitary_surroundings fun _ h => nomatch h

open Collection (pass keyIn keyedInbox) in
/-- The second request states the key that came with the first reply. -/
theorem handed_out_is_echoed : ∃ x y root,
    keyedInbox.since ((pass .sample "5" .changes).runIn
      (handingOut (Text.toBytes "5b")).surroundings keyedInbox).2 = [x, y] ∧
    Wbxml.decode y.1.body = .ok root ∧ keyIn root = some "5b" := by
  obtain ⟨hpass, -⟩ :=
    tokens_are_echoed (solitary_handingOut (Text.toBytes "5b")) .sample keyedInbox
  have hsince : keyedInbox.since ((pass .sample "5" .changes).runIn
      (handingOut (Text.toBytes "5b")).surroundings keyedInbox).2 = [_] ++ _ :: [] := rfl
  obtain ⟨-, root, hroot, hkey, -⟩ := hpass "5" .changes _ _ _ hsince rfl
  exact ⟨_, _, root, hsince, hroot, hkey "5b" rfl (by decide)⟩

/-- Each key of this kind comes back as it is in the next request of a pass. -/
def ReturnsKeys (P : String → Prop) : Prop :=
  ∀ (s : Surroundings Memory) (sess : Session) (folder : String) (w : World Memory)
    (xs : List Exchanged) (x : Exchanged) (ys : List Exchanged) (key : String), s.Solitary →
    w.since ((Collection.pass sess folder .changes).runIn s w).2 = xs ++ x :: ys →
    x.1.command = "Sync" →
    ((Collection.dialogue folder (w.mailbox.key? folder)).along xs).key = some key → P key →
    (Wbxml.decode x.1.body).toOption.bind Collection.keyIn = some key

open Collection (pass keyedInbox Command) in
/-- A key with a NUL character comes back without it, an empty key is taken for none, and commands
for two messages can be the same. -/
theorem not_every_token_is_echoed :
    ¬ReturnsKeys (· ≠ "") ∧ ¬ReturnsKeys Text.NoNul ∧
      ¬∀ c d : Command, c.id ≠ d.id → c.toElement.encode ≠ d.toElement.encode := by
  refine ⟨fun h => ?_, fun h => ?_, fun h => ?_⟩
  · have hsince : keyedInbox.since ((pass .sample "5" .changes).runIn
        (handingOut [97, 0, 98]).surroundings keyedInbox).2 = [_] ++ _ :: [] := rfl
    have hsame : some "ab" = some "a\x00b" := h _ .sample "5" keyedInbox _ _ _ "a\x00b"
      (solitary_handingOut [97, 0, 98]) hsince rfl rfl (by decide)
    exact absurd hsame (by decide)
  · have hsince : keyedInbox.since ((pass .sample "5" .changes).runIn
        (handingOut []).surroundings keyedInbox).2 = [_] ++ _ :: [_] := rfl
    have hsame : some "0" = some "" := h _ .sample "5" keyedInbox _ _ _ ""
      (solitary_handingOut []) hsince rfl rfl (by decide)
    exact absurd hsame (by decide)
  · exact h (.delete "5:\x001") (.delete "5:1") (by decide) (by decide)

end MailSync
