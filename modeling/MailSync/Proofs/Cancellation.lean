import MailSync.Proofs.Cancelling
import MailSync.Proofs.Composition

/-!
# When the user cancels

Whichever request is in flight when the user cancels, it is the last one of the operation, and what
is in the mailbox stays as it is: every pass looks right after the reply and gives up. Only the
policy handshake does not look. If one of its requests is in flight it goes on: the other one may
follow, and the policy key may still be written, or the mailbox wiped on order.
-/
namespace MailSync
open Mailbox (Call Memory policyKeyMark)

variable {α β : Type}

namespace Operation

/-- The operation failed. -/
def Fails (r : Except SyncError α) : Prop := ∃ e, r = .error e

def Winds (W : Call → Prop) (Q : Except SyncError α → Prop) (op : Operation α) (left : Nat) :
    Prop :=
  Program.Winds W Q op.run left

def Heeds (Q : Except SyncError α → Prop) (op : Operation α) : Prop := Program.Heeds Q op.run

section
variable {W : Call → Prop} {R : Except SyncError α → Prop} {Q : Except SyncError β → Prop}
  {op : Operation α} {f : α → Operation β} {left : Nat}

/-- A first part that posts nothing leaves all requests to the second one. -/
theorem Winds.bind (h : Winds W R op 0) (he : ∀ e, R (.error e) → Q (.error e))
    (hf : ∀ a, R (.ok a) → Winds W Q (f a) left) : Winds W Q (op >>= f) left := by
  rw [← Nat.zero_add left]
  refine Program.Winds.bind h fun r hr => ?_
  cases r with
  | ok a => exact hf a hr
  | error e => exact he e hr

/-- What looks first whether the user has cancelled gives up at once. -/
theorem Winds.of_look {f : Unit → Operation α} : Winds W Fails (checkCancelled >>= f) left := by
  refine Program.Winds.idle rfl rfl fun cancelled h => ?_
  obtain rfl : cancelled = true := h
  exact ⟨.cancelled, rfl⟩

theorem Heeds.bind (h : Heeds R op) (he : ∀ e, R (.error e) → Q (.error e))
    (hok : ∀ a, R (.ok a) → Winds Leeway.none.writes Q (f a) 0) (hf : ∀ a, Heeds Q (f a)) :
    Heeds Q (op >>= f) := by
  refine Program.Heeds.bind h (fun r hr => ?_) fun r => ?_
  · cases r with
    | ok a => exact hok a hr
    | error e => exact he e hr
  · cases r with
    | ok a => exact hf a
    | error e => trivial

/-- What fails once the user has cancelled keeps what follows from running. -/
theorem Heeds.bind_of_fails (h : Heeds Fails op) (he : ∀ e, Q (.error e))
    (hf : ∀ a, Heeds Q (f a)) : Heeds Q (op >>= f) :=
  h.bind (fun e _ => he e) (fun _ ⟨_, h⟩ => nomatch h) hf

/-- What posts nothing has nothing to heed. -/
theorem Heeds.of_only (h : Only Effect.SendsNothing op) : Heeds R op :=
  Program.Heeds.of_only h

theorem Heeds.bind_of_only (h : Only Effect.SendsNothing op) (hf : ∀ a, Heeds Q (f a)) :
    Heeds Q (op >>= f) :=
  Heeds.bind (R := fun _ => False) (.of_only h) (fun _ => False.elim) (fun _ => False.elim) hf

theorem Heeds.withLock {lock : String} (h : Heeds R op) : Heeds R (withLock lock op) := by
  refine ⟨fun _ _ h => (nomatch h), fun taken => ?_⟩
  cases taken with
  | false => trivial
  | true =>
    change Program.Heeds R (op.run >>= fun r => Program.effect (.release lock) >>= fun _ => pure r)
    refine Program.Heeds.bind h (fun r hr => .idle rfl rfl fun _ _ => hr) fun r => ?_
    exact ⟨fun _ _ h => (nomatch h), fun _ => trivial⟩

/-- Whatever comes of an operation is a value to go on with. -/
theorem Heeds.attempt (h : Heeds R op) :
    Heeds (fun r => ∃ a, r = .ok a ∧ R a) (ofProgram op.run) :=
  Program.Heeds.bind h (fun r hr => ⟨r, rfl, hr⟩) fun _ => trivial

end

/-- One exchange of a pass, for any command but that of the handshake. -/
theorem Heeds.turn {ε : Type} (sess : Session) {exchange : Account → Program ε} (request : Request)
    (g : Except TransportError Reply → ε) (hrequest : request.command ≠ "Provision")
    (h : ∀ account, exchange account =
      Program.effect (.post account request) >>= fun r => pure (g r)) :
    Heeds Fails (sess.turn exchange) := by
  refine .bind_of_only (sess.only_snapshot fun _ => rfl) fun account => ?_
  rw [h account]
  refine ⟨fun account' request' he r => ?_, fun r => ?_⟩
  · obtain ⟨-, rfl⟩ := Effect.post.inj he
    rw [Leeway.after, if_neg hrequest]
    exact Winds.of_look
  · exact Heeds.bind_of_only (.checkCancelled rfl) fun _ => trivial

end Operation
open Operation (Heeds Winds Only Fails)

namespace DevicePolicy

/-- What a leg makes of the outcome of its exchange. -/
def settled : Except Failure Response → Operation Response
  | .error f => throw (f.toError "provisioning")
  | .ok r => do
    obey r
    pure r

section
variable {k : Response → Operation β}

theorem winds_settled {left : Nat}
    (hk : ∀ r, Winds Leeway.handshake.writes (fun _ => True) (k r) left)
    (o : Except Failure Response) :
    Winds Leeway.handshake.writes (fun _ => True) (settled o >>= k) left := by
  have hobey (r : Response) : Winds Leeway.handshake.writes (fun _ => True) (obey r) 0 := by
    unfold obey
    split_ifs
    · exact Program.Winds.ask (fun _ => .inl rfl) fun answer => by cases answer <;> trivial
    · trivial
    · trivial
  have hsettled : Winds Leeway.handshake.writes (fun _ => True) (settled o) 0 := by
    cases o with
    | error f => trivial
    | ok r => exact (hobey r).bind (fun _ _ => trivial) fun _ _ => trivial
  exact hsettled.bind (fun _ _ => trivial) fun r _ => hk r

theorem heeds_settled (hk : ∀ r, Heeds (fun _ => True) (k r)) (o : Except Failure Response) :
    Heeds (fun _ => True) (settled o >>= k) := by
  have hobey (r : Response) : Only Effect.SendsNothing (obey r) := by
    unfold obey
    split_ifs
    · exact Only.bind (.ask rfl) fun _ => .throw _
    · exact .throw _
    · exact .pure ()
  refine .bind_of_only ?_ hk
  cases o with
  | error f => exact .throw _
  | ok r => exact (hobey r).bind fun _ => .pure r

/-- A leg of the handshake, with what follows it: the other leg at most, and writes of the
handshake. -/
theorem heeds_leg (settings : ProtocolSettings) (account : Account) (root : Wbxml.Element)
    (hwinds : ∀ r, Winds Leeway.handshake.writes (fun _ => True) (k r) 1)
    (hheeds : ∀ r, Heeds (fun _ => True) (k r)) :
    Heeds (fun _ => True) (leg (exchange settings account root) >>= k) := by
  have hleg : leg (exchange settings account root) >>= k =
      Operation.ofProgram (exchange settings account root) >>= fun o => settled o >>= k :=
    bind_assoc ..
  rw [hleg]
  refine ⟨fun account' request' he result => ?_, fun result => heeds_settled hheeds _⟩
  obtain ⟨-, rfl⟩ := Effect.post.inj he
  have hcommand : (Exchange.request "Provision" root settings.commandTimeout).command =
      "Provision" := rfl
  rw [Leeway.after, if_pos hcommand]
  exact winds_settled hwinds _

/-- The key that a response must bring, and what is made of it. -/
theorem winds_requireKey {k : String → Operation β} {left : Nat} (what : String)
    (key : Option String) (hk : ∀ key, Winds Leeway.handshake.writes (fun _ => True) (k key) left) :
    Winds Leeway.handshake.writes (fun _ => True) (requireKey what key >>= k) left := by
  cases key with
  | none => trivial
  | some key => exact hk key

theorem winds_setPolicyKey (key : Option String) (left : Nat) :
    Winds Leeway.handshake.writes (fun _ => True) (Mailbox.setPolicyKey key) left :=
  Program.Winds.ask (fun _ => .inr ⟨key, rfl⟩) fun answer => by cases answer <;> trivial

end

end DevicePolicy

open DevicePolicy in
theorem Session.heeds_provision (sess : Session) : Heeds (fun _ => True) sess.provision := by
  have hkey (what : String) (key : Option String) :
      Only Effect.SendsNothing (requireKey what key) := by
    cases key <;> trivial
  -- What follows the second leg.
  have hlast (r : Response) (left : Nat) : Winds Leeway.handshake.writes (fun _ => True) (do
      let key ← requireKey "acknowledgement" r.key
      Mailbox.setPolicyKey (some key)) left :=
    winds_requireKey _ _ fun key => winds_setPolicyKey (some key) left
  unfold provision
  split_ifs
  · refine heeds_leg _ _ _ (fun offer => ?_) fun offer => ?_
    · split_ifs
      · exact winds_setPolicyKey none 1
      · refine winds_requireKey _ _ fun temporary => ?_
        exact Program.Winds.post rfl fun result => winds_settled (fun r => hlast r 0) _
    · split_ifs
      · exact .of_only (.ask rfl)
      · refine .bind_of_only (hkey _ _) fun temporary => ?_
        refine heeds_leg _ _ _ (fun r => hlast r 1) fun r => ?_
        exact .bind_of_only (hkey _ _) fun key => .of_only (.ask rfl)
  · exact .of_only (.throw _)

namespace Operation

theorem composes_heeds : Composes (.of fun _ op => Heeds Fails op) where
  pure _ := .of_only (.pure _)
  throw _ := .of_only (.throw _)
  bind h hf _ := h.bind_of_fails (fun e => ⟨e, rfl⟩) hf
  withLock _ h _ := h.withLock
  look := .of_only (.checkCancelled rfl)
  tell _ := .of_only (.ofProgram ⟨rfl, fun _ => trivial⟩)

/-- After the handshake a pass looks, and so it fails. -/
theorem upholds_heeds (sess : Session) : Upholds (.of fun _ op => Heeds Fails op) sess where
  toStores := composes_heeds.stores fun _ => .of_only (.ask rfl)
  turn request g hrequest hex := .turn sess request g hrequest hex
  handshake := by
    rintro _ _ _ _ _ ⟨f, rfl⟩ hop _
    exact sess.heeds_provision.bind (fun e _ => ⟨e, rfl⟩) (fun _ _ => .of_look) fun _ => hop

end Operation
open Operation (Property upholds_heeds)

theorem Hierarchy.heeds_refresh (sess : Session) : Heeds (fun _ => True) (refresh sess) := by
  have h := upholds_heeds sess
  have hpass : Property.of (fun _ op => Heeds Fails op) _ .free _
      (do discard (pass sess); pure true) :=
    h.bind_free (h.discard (h.hierarchyPass (Locks.acquire?_free _))) fun _ => h.pure true
  refine Program.Heeds.bind hpass (fun r _ => ?_) fun r => ?_
  all_goals
    rcases r with e | a
    · cases e <;> trivial
    · trivial

namespace Collection
variable (sess : Session) (folder : String)

theorem heeds_completeAll (stats : Stats) :
    Heeds (fun _ => True) (completeAll sess folder stats) := by
  unfold completeAll
  refine .bind_of_only (.ofProgram (Only.ask rfl)) fun r => ?_
  split
  · exact .of_only (.pure _)
  · exact .of_only (.pure _)
  · have hcomplete := ((upholds_heeds sess).handles folder).complete (Locks.acquire?_free _)
    refine (hcomplete _).attempt.bind (fun _ _ => trivial) (fun r _ => ?_) fun r => ?_
    · cases r <;> trivial
    · cases r <;> exact .of_only (.pure _)

theorem heeds_syncFolder : Heeds (fun _ => True) (syncFolder sess folder) := by
  have hpass := ((upholds_heeds sess).handles folder).pass .changes (Locks.acquire?_free _)
  refine .withLock (hpass.bind_of_fails (fun _ => trivial) fun c => ?_)
  refine .bind_of_only (c.batch.only_write (fun _ _ => rfl) .any) fun flagsChanged => ?_
  refine .bind_of_only (only_commit (fun _ _ => rfl) c) fun _ => ?_
  refine .bind_of_only (only_announce (fun _ => rfl) folder _) fun _ => ?_
  refine (heeds_completeAll sess folder _).bind (fun _ _ => trivial) (fun stats _ => ?_)
    fun stats => .of_only (.bind (.ask rfl) fun _ => .pure _)
  exact Program.Winds.ask (fun h => nomatch h) fun answer => by cases answer <;> trivial

theorem heeds_sync : Heeds (fun _ => True) (sync sess folder) := by
  have htell (notice : Notice) : Only Effect.SendsNothing (Operation.tell notice) :=
    .ofProgram ⟨rfl, fun _ => trivial⟩
  refine .bind_of_only (htell _) fun _ => ?_
  refine (heeds_syncFolder sess folder).attempt.bind (fun _ _ => trivial) (fun r _ => ?_)
    fun r => ?_
  · cases r <;> exact Program.Winds.idle rfl rfl fun _ _ => trivial
  · cases r with
    | error e => exact .of_only ((htell _).bind fun _ => .throw e)
    | ok stats => exact .of_only ((htell _).bind fun _ => .pure stats)

end Collection

/-- If the user cancels while a request of an operation is in flight, no other request follows and
the mailbox stays as it is. Only where the request is one of the handshake the other one may follow,
and the policy key may still be written, or the mailbox wiped. -/
def StopsOnCancel (s : Surroundings Memory) (w : World Memory) (op : Operation α) : Prop :=
  ∀ request v, (request, v) ∈ op.run.flights s w → (s.inFlight v).cancelled = true →
    (request.command ≠ "Provision" →
      (op.runIn s w).2.requests = v.requests ∧ (op.runIn s w).2.mailbox = v.mailbox) ∧
    (request.command = "Provision" →
      (∃ more, (op.runIn s w).2.requests = v.requests ++ more ∧ more.length ≤ 1 ∧
        ∀ x ∈ more, x.2.command = "Provision") ∧
      ∃ calls, (∀ call ∈ calls, call = .wipe ∨ ∃ key, call = .setExtra policyKeyMark key) ∧
        (op.runIn s w).2.mailbox = v.mailbox.after calls)

section
variable {s : Surroundings Memory}

theorem stopsOnCancel_of_heeds (hs : s.Solitary) (hr : s.Resolute) {op : Operation α}
    {Q : Except SyncError α → Prop} (h : Heeds Q op) (w : World Memory) : StopsOnCancel s w op := by
  intro request v hv hc
  obtain ⟨-, hwithin⟩ := Program.Heeds.run hs hr h hv hc
  constructor
  · intro hne
    rw [Leeway.after, if_neg hne] at hwithin
    obtain ⟨⟨calls, hcalls, hmailbox⟩, more, hmore, hlength, -⟩ := hwithin
    obtain rfl : calls = [] := List.eq_nil_iff_forall_not_mem.mpr hcalls
    obtain rfl : more = [] := List.eq_nil_of_length_eq_zero (Nat.le_zero.mp hlength)
    exact ⟨hmore.trans (List.append_nil _), hmailbox⟩
  · intro he
    rw [Leeway.after, if_pos he] at hwithin
    exact ⟨hwithin.requests, hwithin.mailbox⟩

/-- Every operation that can be cancelled, whatever the replies and whenever the user cancels. -/
theorem cancelled_stops (hs : s.Solitary) (hr : s.Resolute) (sess : Session) (w : World Memory) :
    StopsOnCancel s w (Client.refreshFolders sess) ∧
    ∀ folder, StopsOnCancel s w (Client.sync sess folder) ∧
      (∀ id, StopsOnCancel s w (Client.download sess folder id)) ∧
      ∀ ids, StopsOnCancel s w (Client.deleteMessages sess folder ids) ∧
        ∀ flag state, StopsOnCancel s w (Client.setFlag sess folder ids flag state) := by
  have h (folder : String) := (upholds_heeds sess).handles folder
  refine ⟨stopsOnCancel_of_heeds hs hr (Hierarchy.heeds_refresh sess) w, fun folder => ⟨?_, ?_, ?_⟩⟩
  · exact stopsOnCancel_of_heeds hs hr (Collection.heeds_sync sess folder) w
  · exact fun id => stopsOnCancel_of_heeds hs hr ((h folder).download id) w
  · refine fun ids => ⟨?_, fun flag state => ?_⟩
    · exact stopsOnCancel_of_heeds hs hr ((h folder).deleteMessages ids) w
    · exact stopsOnCancel_of_heeds hs hr ((h folder).setFlag ids flag state) w

end

/-- A server that demands the handshake, and a user who cancels while a certain request is in
flight. -/
def demanding (n : Nat) : Script Memory where
  replies := [.ok ⟨449, []⟩, .ok ⟨200, (DevicePolicy.responseDocument 1 (some "t")).encode⟩,
    .ok ⟨200, (DevicePolicy.responseDocument 1 (some "f")).encode⟩]
  meanwhile := [(n, fun w => { w with cancelled := true })]
  id := ""

theorem demanding_solitary (n : Nat) : (demanding n).surroundings.Solitary := by
  refine Script.solitary_surroundings fun entry h w => ?_
  rw [List.mem_singleton.mp h]
  exact ⟨true, rfl⟩

theorem demanding_resolute (n : Nat) : (demanding n).surroundings.Resolute := by
  refine Script.resolute_surroundings fun entry h w _ => ?_
  obtain rfl := List.mem_singleton.mp h
  rfl

/-- Cancelled while the first request is in flight, which is not one of the handshake. -/
theorem cancelled_stops_at_once :
    (demanding 1).surroundings.Solitary ∧ (demanding 1).surroundings.Resolute ∧
    ∃ request v, (request, v) ∈
        (Client.refreshFolders .sample).run.flights (demanding 1).surroundings .inbox ∧
      ((demanding 1).surroundings.inFlight v).cancelled = true ∧
      request.command = "FolderSync" ∧
      ((Client.refreshFolders .sample).runIn (demanding 1).surroundings .inbox).2.requests =
        v.requests ∧
      ((Client.refreshFolders .sample).runIn (demanding 1).surroundings .inbox).2.mailbox =
        v.mailbox := by
  have hs := demanding_solitary 1
  have hr := demanding_resolute 1
  have hflights : (((Client.refreshFolders .sample).run.flights (demanding 1).surroundings
      .inbox).map fun flight => (flight.1.command, ((demanding 1).surroundings.inFlight
        flight.2).cancelled)) = [("FolderSync", true)] := rfl
  obtain ⟨⟨request, v⟩, rest, hv, he, -⟩ := List.map_eq_cons_iff.mp hflights
  obtain ⟨hcommand, hcancelled⟩ := Prod.mk.inj he
  have hmem := hv ▸ List.mem_cons_self
  have hne : request.command ≠ "Provision" := by
    rw [show request.command = "FolderSync" from hcommand]
    decide
  exact ⟨hs, hr, request, v, hmem, hcancelled, hcommand,
    ((cancelled_stops hs hr .sample .inbox).1 request v hmem hcancelled).1 hne⟩

/-- A handshake under way goes on after the user has cancelled. -/
theorem not_every_cancelled_stops :
    ¬∀ (s : Surroundings Memory) (sess : Session) (w : World Memory), s.Solitary → s.Resolute →
      ∀ request v, (request, v) ∈ (Client.refreshFolders sess).run.flights s w →
        (s.inFlight v).cancelled = true →
        ((Client.refreshFolders sess).runIn s w).2.requests = v.requests ∧
          ((Client.refreshFolders sess).runIn s w).2.mailbox = v.mailbox := by
  intro h
  have hflights : (((Client.refreshFolders .sample).run.flights (demanding 2).surroundings
      .inbox)[1]?.map fun flight => (((demanding 2).surroundings.inFlight flight.2).cancelled,
        flight.2.requests.length)) = some (true, 2) := rfl
  obtain ⟨⟨request, v⟩, hv, he⟩ := Option.map_eq_some_iff.mp hflights
  obtain ⟨hcancelled, hlength⟩ := Prod.mk.inj he
  have hrequests := (h _ .sample .inbox (demanding_solitary 2) (demanding_resolute 2) request v
    (List.mem_of_getElem? hv) hcancelled).1
  have hthree : ((Client.refreshFolders .sample).runIn (demanding 2).surroundings
      .inbox).2.requests.length = 3 := rfl
  rw [hrequests] at hthree
  exact absurd (hlength.symm.trans hthree) (by decide)

end MailSync
