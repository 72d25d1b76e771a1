import MailSync.Proofs.Collection.Malformed
import MailSync.Proofs.Collection.Standing
import MailSync.Proofs.Hierarchy.Pass
import MailSync.Proofs.Replies
import MailSync.Proofs.Trace

/-!
# What a round tells

A round tells its caller a verdict, the key for the next round, what came in, and why it failed. A
pass commits the key and clears what is stored on the strength of these four, so they have to agree:
a round that failed brings no key and nothing to clear, whatever the server, or what passes for it,
has answered. A round returns at a dozen places, each with the four of them. That they agree is
shown for each of these, and what they are is what the round comes to.
-/
namespace MailSync
open CodePage

/-- What a round asks about. -/
inductive Inquiry where
  | folders
  | messages (request : Collection.Request)

inductive Payload where
  | nothing
  | folders (batch : Hierarchy.Batch)
  | messages (batch : Collection.Batch)

/-- Whether the payload replaces what is stored. -/
def Payload.reset? : Payload → Option Bool
  | nothing => none
  | folders batch => some batch.reset
  | messages batch => some batch.reset

/-- What the caller of a round is told. -/
structure Outcome where
  verdict : Verdict
  key : Option String
  payload : Payload
  detail : Option String

def Outcome.of {β : Type} (payload : β → Payload) : Except Failure (Round β) → Outcome
  | .ok round =>
    ⟨if round.more then .moreAvailable else .ok, some round.key, payload round.batch, none⟩
  | .error f => ⟨f.verdict, none, .nothing, some f.detail⟩

namespace Inquiry

/-- The request of a round. -/
def wire (settings : ProtocolSettings) (key : Option String) : Inquiry → Request
  | folders => Hierarchy.wire settings key
  | messages request => Collection.wire settings request key

/-- Makes a round, and tells what came of it. -/
def ask (settings : ProtocolSettings) (account : Account) (key : Option String) :
    Inquiry → Program Outcome
  | folders => Outcome.of .folders <$> Hierarchy.exchange settings account key
  | messages request => Outcome.of .messages <$> Collection.exchange settings account request key

end Inquiry

/-- A key that stands for none. -/
def Fresh (key : Option String) : Prop := key = none ∨ key = some "" ∨ key = some "0"

theorem SyncKey.isInitial_iff (key : Option String) : isInitial key = true ↔ Fresh key := by
  cases key with
  | none => exact iff_of_true rfl (.inl rfl)
  | some key =>
    rw [isInitial, Bool.or_eq_true, decide_eq_true_iff, decide_eq_true_iff]
    exact ⟨fun h => .inr (h.imp (congrArg some) (congrArg some)), fun h =>
      (h.resolve_left nofun).imp Option.some.inj Option.some.inj⟩

theorem eq_some_sent {key : Option String} (h : ¬Fresh key) : key = some (SyncKey.sent key) := by
  cases key with
  | none => exact absurd (.inl rfl) h
  | some key =>
    have hused : SyncKey.isInitial (some key) = false :=
      Bool.eq_false_iff.mpr fun hi => h ((SyncKey.isInitial_iff _).mp hi)
    rw [SyncKey.sent_some hused]

/-- The key that a reply states. -/
inductive StatesKey : Inquiry → Except TransportError Reply → String → Prop
  | folders {body : Bytes} {root : Wbxml.Element} {key : String}
      (decodes : Wbxml.decode body = .ok root)
      (states : root.childText? FolderHierarchy.syncKey = some key) :
      StatesKey .folders (.ok ⟨200, body⟩) key
  | messages {request : Collection.Request} {body : Bytes} {root e : Wbxml.Element} {key : String}
      (decodes : Wbxml.decode body = .ok root)
      (chosen : Collection.Chosen root request.collection e)
      (states : e.childText? AirSync.syncKey = some key) :
      StatesKey (.messages request) (.ok ⟨200, body⟩) key

/-- Where the key for the next round comes from: the reply states it, or, in a round about messages
since a key, the reply states none and the key stays. -/
inductive NextKey : Inquiry → Option String → Except TransportError Reply → String → Prop
  | stated {inquiry : Inquiry} {sent : Option String} {reply : Except TransportError Reply}
      {key : String} (states : StatesKey inquiry reply key) : NextKey inquiry sent reply key
  | kept {request : Collection.Request} {reply : Except TransportError Reply} {key : String}
      (used : ¬Fresh (some key)) (unstated : ∀ key', ¬StatesKey (.messages request) reply key') :
      NextKey (.messages request) (some key) reply key

/-- The parts of an outcome agree with each other, with the key that was sent and with the reply. -/
structure Outcome.Agrees (inquiry : Inquiry) (sent : Option String)
    (reply : Except TransportError Reply) (o : Outcome) : Prop where
  key_iff : o.key.isSome = true ↔ o.verdict.isOk = true
  payload_iff : o.payload ≠ .nothing ↔ o.verdict.isOk = true
  detail_iff : o.detail = none ↔ o.verdict.isOk = true
  reset : ∀ reset, o.payload.reset? = some reset → (reset = true ↔ Fresh sent)
  whole : inquiry = .folders → o.verdict ≠ .moreAvailable
  fresh : ∀ request, inquiry = .messages request → Fresh sent → o.verdict ≠ .ok
  origin : ∀ key, o.key = some key → NextKey inquiry sent reply key

/-- What a round tells where it comes to nothing. -/
def Outcome.failed (verdict : Verdict) (detail : String) : Outcome :=
  ⟨verdict, none, .nothing, some detail⟩

namespace Outcome.Agrees
variable {inquiry : Inquiry} {sent : Option String} {reply : Except TransportError Reply}

theorem failed {verdict : Verdict} (h : verdict.isOk = false) (detail : String) :
    (Outcome.failed verdict detail).Agrees inquiry sent reply := by
  have hf : ¬verdict.isOk = true := Bool.eq_false_iff.mp h
  have hno {other : Verdict} (ho : other.isOk = true) : verdict ≠ other := fun he => hf (he ▸ ho)
  exact {
    key_iff := iff_of_false nofun hf
    payload_iff := iff_of_false (fun hn => hn rfl) hf
    detail_iff := iff_of_false nofun hf
    reset := nofun
    whole := fun _ => hno rfl
    fresh := fun _ _ _ => hno rfl
    origin := nofun }

/-- A round that is accepted clears what is stored just if it began afresh. -/
theorem accepted {verdict : Verdict} (hok : verdict.isOk = true) {key : String} {payload : Payload}
    (hreset : payload.reset? = some (SyncKey.isInitial sent))
    (hwhole : inquiry = .folders → verdict ≠ .moreAvailable)
    (hfresh : ∀ request, inquiry = .messages request → Fresh sent → verdict ≠ .ok)
    (hkey : NextKey inquiry sent reply key) :
    Outcome.Agrees inquiry sent reply ⟨verdict, some key, payload, none⟩ where
  key_iff := iff_of_true rfl hok
  payload_iff := by
    refine iff_of_true (fun (hn : payload = .nothing) => ?_) hok
    rw [hn] at hreset
    cases hreset
  detail_iff := iff_of_true rfl hok
  reset reset h := by
    rw [← SyncKey.isInitial_iff, Option.some.inj (h.symm.trans hreset)]
  whole := hwhole
  fresh := hfresh
  origin key' h := Option.some.inj h ▸ hkey

end Outcome.Agrees

/-! ### Rounds about the hierarchy -/

namespace Hierarchy

/-- What a round tells, by the reply. -/
def told (sent : Option String) (reply : Except TransportError Reply) : Outcome :=
  match Exchange.documentOf "FolderSync" reply with
  | .error f => .failed f.verdict f.detail
  | .ok none => .failed .malformed "empty FolderSync response"
  | .ok (some root) =>
    match Response.ofDocument root with
    | .error e => .failed .malformed e.message
    | .ok r =>
      if verdict r.status ≠ .ok then
        .failed (verdict r.status) s!"FolderSync status {r.status.toNat}"
      else
        match r.key with
        | none => .failed .malformed "FolderSync without SyncKey"
        | some key => ⟨verdict r.status, some key,
            .folders ⟨SyncKey.isInitial sent, r.deltas⟩, none⟩

theorem of_outcome_eq_told (sent : Option String) (reply : Except TransportError Reply) :
    Outcome.of .folders (outcome (SyncKey.isInitial sent) reply) = told sent reply := by
  unfold told outcome
  rcases Exchange.documentOf "FolderSync" reply with f | _ | root
  · rfl
  · rfl
  dsimp only
  generalize hr : Response.ofDocument root = response
  change Outcome.of .folders (Exchange.ofDocument (Response.ofDocument root) >>= _) = _
  rw [hr]
  cases response with
  | error e => rfl
  | ok r =>
    change Outcome.of .folders (roundOf _ r) = _
    simp only [roundOf]
    by_cases hv : verdict r.status = .ok
    · rw [if_pos hv, if_neg (not_not.mpr hv), hv]
      cases r.key <;> rfl
    · rw [if_neg hv, if_pos hv]
      rfl

theorem key_of_ofDocument {root : Wbxml.Element} {r : Response}
    (h : Response.ofDocument root = .ok r) :
    r.key = root.childText? FolderHierarchy.syncKey := by
  obtain ⟨_, -, h⟩ := bind_eq_ok_iff.mp h
  obtain ⟨status, -, h⟩ := bind_eq_ok_iff.mp h
  split at h
  all_goals
    obtain ⟨deltas, -, h⟩ := bind_eq_ok_iff.mp h
    obtain rfl := Except.ok.inj h
    rfl

theorem agrees_told (sent : Option String) (reply : Except TransportError Reply) :
    (told sent reply).Agrees .folders sent reply := by
  unfold told
  split
  · next f hf => exact .failed (Exchange.isOk_of_documentOf hf) _
  · exact .failed rfl _
  next root hroot =>
  split
  · exact .failed rfl _
  next r hr =>
  split_ifs with hv
  · exact .failed (isOk_verdict hv) _
  rw [not_not.mp hv]
  split
  · exact .failed rfl _
  next key hkey =>
  obtain ⟨body, rfl, hdecode⟩ := Exchange.documentOf_eq_some_iff.mp hroot
  refine .accepted rfl rfl nofun nofun ?_
  exact .stated (.folders hdecode ((key_of_ofDocument hr).symm.trans hkey))

/-- Servers never split a round. -/
theorem more_of_outcome {sent : Option String} {reply : Except TransportError Reply}
    {round : Round Batch} (h : outcome (SyncKey.isInitial sent) reply = .ok round) :
    round.more = false := by
  have hwhole := (agrees_told sent reply).whole rfl
  rw [← of_outcome_eq_told, h, Outcome.of] at hwhole
  exact Bool.eq_false_iff.mpr fun hmore => hwhole (if_pos hmore)

end Hierarchy

/-! ### Rounds about a collection -/

namespace Collection

/-- What a round tells, by the reply. -/
def told (folder : String) (sent : Option String) (reply : Except TransportError Reply) :
    Outcome :=
  match Exchange.documentOf "Sync" reply with
  | .error f => .failed f.verdict f.detail
  | .ok none =>
    if SyncKey.isInitial sent then .failed .malformed "empty Sync response to initial key"
    else ⟨.ok, some (SyncKey.sent sent), .messages .none, none⟩
  | .ok (some root) =>
    match Response.ofDocument root folder with
    | .error e => .failed .malformed e.message
    | .ok r =>
      if verdict r.status ≠ .ok then
        .failed (verdict r.status) s!"Sync status {r.status.toNat} for collection {folder}"
      else if r.key = none ∧ SyncKey.isInitial sent then
        .failed .malformed "Sync without SyncKey"
      else ⟨if r.moreAvailable || SyncKey.isInitial sent then .moreAvailable else .ok,
        some (r.key.getD (SyncKey.sent sent)),
        .messages ⟨SyncKey.isInitial sent, r.deltas, r.responses⟩, none⟩

theorem of_outcome_eq_told (folder : String) (sent : Option String)
    (reply : Except TransportError Reply) :
    Outcome.of .messages (outcome folder sent reply) = told folder sent reply := by
  unfold told outcome
  rcases Exchange.documentOf "Sync" reply with f | _ | root
  · rfl
  · change Outcome.of .messages (roundOfDocument folder sent none) = _
    simp only [roundOfDocument]
    split_ifs <;> rfl
  dsimp only
  generalize hr : Response.ofDocument root folder = response
  change Outcome.of .messages (Exchange.ofDocument (Response.ofDocument root folder) >>= _) = _
  rw [hr]
  cases response with
  | error e => rfl
  | ok r =>
    change Outcome.of .messages (roundOf folder sent r) = _
    simp only [roundOf]
    by_cases hv : verdict r.status = .ok
    · rw [if_pos hv, if_neg (not_not.mpr hv)]
      cases r.key <;> cases SyncKey.isInitial sent <;> rfl
    · rw [if_neg hv, if_pos hv]
      rfl

/-- A response has the key of the collection that is read. -/
theorem key_eq_some_iff {folder : String} {root : Wbxml.Element} {r : Response} {key : String}
    (h : Response.ofDocument root folder = .ok r) :
    r.key = some key ↔ ∃ e, Chosen root folder e ∧ e.childText? AirSync.syncKey = some key := by
  obtain ⟨_, -, h⟩ := bind_eq_ok_iff.mp h
  split at h
  · next e he =>
    obtain ⟨status, -, h⟩ := bind_eq_ok_iff.mp h
    obtain ⟨changes, -, h⟩ := bind_eq_ok_iff.mp h
    obtain rfl := Except.ok.inj h
    refine ⟨fun hkey => ⟨e, choose?_eq_some_iff.mp he, hkey⟩, fun ⟨e', hchosen, hkey⟩ => ?_⟩
    obtain rfl := Option.some.inj (he.symm.trans (choose?_eq_some_iff.mpr hchosen))
    exact hkey
  · next hnone =>
    obtain ⟨status, -, h⟩ := bind_eq_ok_iff.mp h
    obtain rfl := Except.ok.inj h
    refine iff_of_false nofun fun ⟨e, hchosen, _⟩ => ?_
    cases hnone.symm.trans (choose?_eq_some_iff.mpr hchosen)

section
variable {request : Request} {sent : Option String} {reply : Except TransportError Reply}

/-- Where no key is stated, the one in use stays. -/
theorem nextKey_of_unstated (hused : ¬SyncKey.isInitial sent = true)
    (hunstated : ∀ key, ¬StatesKey (.messages request) reply key) :
    NextKey (.messages request) sent reply (SyncKey.sent sent) := by
  have hfresh : ¬Fresh sent := fun h => hused ((SyncKey.isInitial_iff sent).mpr h)
  have hsent := eq_some_sent hfresh
  generalize SyncKey.sent sent = key at hsent ⊢
  subst hsent
  exact .kept hfresh hunstated

theorem nextKey_of_response {root : Wbxml.Element} {r : Response}
    (hroot : Exchange.documentOf "Sync" reply = .ok (some root))
    (hr : Response.ofDocument root request.collection = .ok r)
    (hkey : ¬(r.key = none ∧ SyncKey.isInitial sent = true)) :
    NextKey (.messages request) sent reply (r.key.getD (SyncKey.sent sent)) := by
  obtain ⟨body, rfl, hdecode⟩ := Exchange.documentOf_eq_some_iff.mp hroot
  cases hk : r.key with
  | some key =>
    obtain ⟨e, hchosen, hstates⟩ := (key_eq_some_iff hr).mp hk
    exact .stated (.messages hdecode hchosen hstates)
  | none =>
    refine nextKey_of_unstated (fun h => hkey ⟨hk, h⟩) fun key hstates => ?_
    cases hstates with
    | messages decodes chosen states =>
      obtain rfl := Except.ok.inj (hdecode.symm.trans decodes)
      cases hk.symm.trans ((key_eq_some_iff hr).mpr ⟨_, chosen, states⟩)

theorem agrees_told (request : Request) (sent : Option String)
    (reply : Except TransportError Reply) :
    (told request.collection sent reply).Agrees (.messages request) sent reply := by
  unfold told
  split
  · next f hf => exact .failed (Exchange.isOk_of_documentOf hf) _
  · next hempty =>
    split_ifs with hinitial
    · exact .failed rfl _
    obtain rfl := Exchange.documentOf_eq_none_iff.mp hempty
    refine .accepted rfl ?_ nofun (fun _ _ hsent => ?_) ?_
    · rw [Bool.eq_false_iff.mpr hinitial]
      rfl
    · exact absurd ((SyncKey.isInitial_iff sent).mpr hsent) hinitial
    · refine nextKey_of_unstated hinitial fun key hstates => ?_
      cases hstates with
      | messages decodes => cases decodes
  next root hroot =>
  split
  · exact .failed rfl _
  next r hr =>
  split_ifs with hv hkey hmore
  · exact .failed (isOk_verdict hv) _
  · exact .failed rfl _
  · exact .accepted rfl rfl nofun (fun _ _ _ => nofun) (nextKey_of_response hroot hr hkey)
  · refine .accepted rfl rfl nofun (fun _ _ hsent => ?_) (nextKey_of_response hroot hr hkey)
    rw [(SyncKey.isInitial_iff sent).mpr hsent, Bool.or_true] at hmore
    exact absurd rfl hmore

/-- The next key of an accepted round is the server's own or the one that was sent. -/
theorem nextKey_of_outcome {round : Round Batch}
    (h : outcome request.collection sent reply = .ok round) :
    NextKey (.messages request) sent reply round.key := by
  refine (agrees_told request sent reply).origin round.key ?_
  rw [← of_outcome_eq_told, h]
  rfl

end
end Collection

/-- What a round tells of a reply. -/
def Inquiry.told (sent : Option String) (reply : Except TransportError Reply) : Inquiry → Outcome
  | folders => Hierarchy.told sent reply
  | messages request => Collection.told request.collection sent reply

/-- A round posts one request. What it comes to, whatever the answer is, is what it tells where it
returns, and that agrees: it failed, and then there is no key and nothing came in, or it did not,
and then the key is the server's own or, for messages since a key, that key. -/
theorem rounds_agree (settings : ProtocolSettings) (account : Account) (key : Option String)
    (inquiry : Inquiry) :
    (inquiry.ask settings account key).Always fun t o => ∃ reply,
      t = [⟨.post account (inquiry.wire settings key), reply⟩] ∧
        o = inquiry.told key reply ∧ o.Agrees inquiry key reply := by
  cases inquiry with
  | folders =>
    intro reply
    have htold := Hierarchy.of_outcome_eq_told key reply
    exact ⟨reply, rfl, htold, htold ▸ Hierarchy.agrees_told key reply⟩
  | messages request =>
    intro reply
    have htold := Collection.of_outcome_eq_told request.collection key reply
    exact ⟨reply, rfl, htold, htold ▸ Collection.agrees_told request key reply⟩

end MailSync
