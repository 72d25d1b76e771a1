import MailSync.Proofs.Collection.Landing
import MailSync.Proofs.Composition

/-!
# Orders to wipe the device

A reply of the policy handshake can order the device to wipe its data. Whenever such an order comes
while an operation runs, nothing is left in the mailbox at the end. The operation is denied access,
with one exception: a sync that has written its changes downloads what was cut short and only
counts what goes wrong there. If the order comes in these downloads the sync ends well, as if no
more than a download had failed.
-/
namespace MailSync
open Mailbox (Memory)
open DevicePolicy (OrdersWipe)
open Operation (Ensures Only)

variable {α β : Type} {s : Surroundings Memory}

namespace World
variable {w v u : World Memory} {e : SyncError}

/-- The server ordered a wipe since. -/
def Ordered (w v : World Memory) : Prop :=
  ∃ x ∈ w.since v, x.1.command = "Provision" ∧ OrdersWipe x.2

/-- Later, and the server ordered no wipe in between. -/
structure Unordered (w v : World Memory) : Prop where
  history : w.history <+: v.history
  since : ¬w.Ordered v

theorem Quiet.unordered (h : w.Quiet "Provision" v) : w.Unordered v :=
  ⟨h.history, fun ⟨x, hx, hcommand, _⟩ => h.since x hx hcommand⟩

theorem Unordered.refl (w : World Memory) : w.Unordered w := (Quiet.refl _ w).unordered

theorem Unordered.trans (h : w.Unordered v) (h' : v.Unordered u) : w.Unordered u := by
  refine ⟨h.history.trans h'.history, ?_⟩
  rintro ⟨x, hx, ho⟩
  rw [since_append h.history h'.history] at hx
  rcases List.mem_append.mp hx with hx | hx
  · exact h.since ⟨x, hx, ho⟩
  · exact h'.since ⟨x, hx, ho⟩

/-- One exchange that brings no order. -/
theorem Unordered.exchanged (account : Account) (request : Request)
    {result : Except TransportError Reply} (cancelled : Bool) (ho : ¬OrdersWipe result) :
    w.Unordered (w.exchanged account request result cancelled) := by
  refine ⟨List.prefix_append .., ?_⟩
  rintro ⟨x, hx, -, hox⟩
  rw [since_eq (exchanges_exchanged ..)] at hx
  obtain rfl := List.mem_singleton.mp hx
  exact ho hox

/-- How an operation fails that obeys orders: none came, or nothing is left and access is denied. -/
def Denied (w : World Memory) (e : SyncError) (v : World Memory) : Prop :=
  w.Unordered v ∨ e = .accessDenied ∧ w.Wiped v

theorem Denied.of_unordered (h : w.Unordered v) (h' : v.Denied e u) : w.Denied e u := by
  rcases h' with h' | ⟨he, h'⟩
  · exact .inl (h.trans h')
  · exact .inr ⟨he, h'.of_prefix h.history⟩

/-- Locks do not count. -/
theorem Unordered.locks {l l' : Locks} (h : ({ w with locks := l } : World Memory).Unordered v) :
    w.Unordered { v with locks := l' } :=
  ⟨h.history, h.since⟩

theorem Wiped.locks {l l' : Locks} (h : ({ w with locks := l } : World Memory).Wiped v) :
    w.Wiped { v with locks := l' } :=
  ⟨h.history, h.mailbox, h.order⟩

theorem Wiped.still (h : w.Wiped v) (h' : v.Still u) : w.Wiped u where
  history := h.history.trans h'.history
  mailbox := h'.mailbox.trans h.mailbox
  order := by
    obtain ⟨x, hx, ho⟩ := h.order
    rw [since_append h.history h'.history]
    exact ⟨x, List.mem_append_left _ hx, ho⟩

theorem Denied.locks {l l' : Locks} (h : ({ w with locks := l } : World Memory).Denied e v) :
    w.Denied e { v with locks := l' } := by
  rcases h with h | ⟨he, h⟩
  · exact .inl h.locks
  · exact .inr ⟨he, h.locks⟩

end World
open World

namespace Operation

/-- If the operation ends well, no order came; if an order comes, the operation ends with it. -/
def Obeys (s : Surroundings Memory) (α : Type) (op : Operation α) : Prop :=
  ∀ w, Ensures op s w (fun _ v => w.Unordered v) w.Denied

/-- What makes no exchange of the handshake gets no order. -/
theorem Obeys.of_only (hs : s.Solitary) {op : Operation α}
    (h : Only (Effect.Avoids "Provision") op) : Obeys s α op := by
  intro w
  have hquiet := Ensures.of_always (h.quiet hs w)
  exact hquiet.mono (fun _ v hv => hv.unordered) fun _ v hv => .inl hv.unordered

theorem Obeys.bind {op : Operation α} {f : α → Operation β} (h : Obeys s α op)
    (hf : ∀ a, Obeys s β (f a)) : Obeys s β (op >>= f) := by
  intro w
  refine (h w).bind fun a v hv => ?_
  exact (hf a v).mono (fun _ _ hu => hv.trans hu) fun _ _ hu => hu.of_unordered hv

theorem Obeys.withLock {lock : String} {op : Operation α} (h : Obeys s α op) :
    Obeys s α (withLock lock op) := by
  intro w
  refine .withLock (.inl (.refl w)) fun locks _ => ?_
  exact (h { w with locks }).mono (fun _ _ hv => hv.locks) fun _ _ hv => hv.locks

end Operation
open Operation (Obeys)

theorem DevicePolicy.obeys_leg (hs : s.Solitary) (settings : ProtocolSettings) (account : Account)
    (root : Wbxml.Element) : Obeys s _ (leg (exchange settings account root)) := by
  intro w
  refine ensures_leg_of hs (fun result c ho => ?_) fun result c ho => ?_
  · have hv := Unordered.exchanged (w := w) account
      (Exchange.request "Provision" root settings.commandTimeout) c ho
    exact ⟨fun _ _ => hv, fun _ => .inl hv⟩
  · exact .inr ⟨rfl, .of_order rfl ho⟩

namespace Operation

theorem composes_obeys (hs : s.Solitary) : Composes (.of (Obeys s)) where
  pure _ := .of_only hs (.pure _)
  throw _ := .of_only hs (.throw _)
  bind h hf _ := h.bind hf
  withLock _ h _ := h.withLock
  look := .of_only hs (.checkCancelled trivial)
  tell _ := .of_only hs (.ofProgram ⟨trivial, fun _ => trivial⟩)

/-- An order can come in either leg of the handshake. -/
theorem serves_obeys (hs : s.Solitary) (sess : Session) :
    Serves (.of (Obeys s)) sess where
  toStores := (composes_obeys hs).stores fun _ => .of_only hs (.ask trivial)
  copy := (composes_obeys hs).copy fun _ => .of_only hs (.ask trivial)
  freshId := .of_only hs (.ofProgram ⟨trivial, fun _ => trivial⟩)
  post _ _ _ hrequest := .of_only hs (.ofProgram ⟨hrequest, fun _ => trivial⟩)
  provision := (composes_obeys hs).provision (DevicePolicy.obeys_leg hs sess.settings) fun _ =>
    .of_only hs (.ask trivial)

theorem upholds_obeys (hs : s.Solitary) (sess : Session) :
    Upholds (.of (Obeys s)) sess :=
  (serves_obeys hs sess).upholds

end Operation
open Operation (Property upholds_obeys)

/-- To tell whether a pass succeeded does not hide that access was denied. -/
theorem Hierarchy.obeys_refresh (hs : s.Solitary) (sess : Session) : Obeys s _ (refresh sess) := by
  intro w
  have h := upholds_obeys hs sess
  have hpass : Property.of (Obeys s) _ .free _ (discard (pass sess) >>= fun _ => pure true) :=
    h.bind_free (h.discard (h.hierarchyPass (Locks.acquire?_free _))) fun _ => h.pure true
  refine (hpass w).recover fun e v hv => ?_
  rcases hv with hv | ⟨rfl, hv⟩
  · split
    all_goals first | exact .throw (.inl hv) | exact .pure hv
  · exact .throw (.inr ⟨rfl, hv⟩)

namespace Collection
variable {w v u : World Memory}

/-- The downloads that follow a sync may meet an order. Then nothing is left and failures are
counted. -/
theorem ensures_completeAll_wiped (hs : s.Solitary) (sess : Session) (folder : String)
    (stats : Stats) (w : World Memory) {E : SyncError → World Memory → Prop} :
    Ensures (completeAll sess folder stats) s w
      (fun r v => w.Unordered v ∨ w.Wiped v ∧ 0 < r.failures) E := by
  have h := (upholds_obeys hs sess).handles folder
  have hlist : Obeys s _ (Operation.ask (.truncatedIds folder)) :=
    .of_only hs (.ask trivial)
  have hcomplete (ids : List String) : Obeys s _ (complete sess folder ids) :=
    h.complete (Locks.acquire?_free _) ids
  refine (Ensures.attempt (hlist w)).bind fun r v hv => ?_
  rcases r with e | ids
  · rcases hv with hv | ⟨-, hv⟩
    · exact .pure (.inl hv)
    · exact .pure (.inr ⟨hv, Nat.succ_pos _⟩)
  cases ids with
  | nil => exact .pure (.inl hv)
  | cons id ids =>
    refine (Ensures.attempt (hcomplete (id :: ids) v)).bind fun r u hu => ?_
    rcases r with e | report
    · rcases Denied.of_unordered hv hu with hu | ⟨-, hu⟩
      · exact .pure (.inl hu)
      · refine .pure (.inr ⟨hu, ?_⟩)
        change 0 < stats.failures + (id :: ids).length
        rw [List.length_cons]
        omega
    · exact .pure (.inl (Unordered.trans hv hu))

/-- How a sync ends well although the server ordered a wipe: the changes had come before the order,
and what failed is counted among the downloads. -/
structure Overlooks (s : Surroundings Memory) (sess : Session) (folder : String) (w : World Memory)
    (stats : Stats) : Prop where
  failures : 0 < stats.failures
  truncated : stats.truncated = 0
  changes : ∃ locks c v, w.locks.acquire? (Locks.ofFolder folder) = some locks ∧
    (pass sess folder .changes).runIn s { w with locks } = (.ok c, v) ∧ w.Unordered v

/-- What follows the landing of a sync. An order that comes then is obeyed and not reported. -/
theorem ensures_finish_wiped (hs : s.Solitary) (sess : Session) (folder : String) (c : Collected)
    (n : Nat) (w : World Memory) :
    Ensures (finish sess folder c n) s w
      (fun r v => w.Unordered v ∨ w.Wiped v ∧ 0 < r.failures ∧ r.truncated = 0) w.Denied := by
  have hannounce : Obeys s _ (announce folder c.batch.completed) :=
    .of_only hs (only_announce (fun _ => trivial) folder _)
  refine (hannounce w).bind fun _ v hv => ?_
  refine (ensures_completeAll_wiped hs sess folder _ v).bind fun stats u hu => ?_
  refine .bind_ok (Operation.runIn_ask_read rfl s u) (.pure ?_)
  rcases hu with hu | ⟨hu, hfailures⟩
  · exact .inl (hv.trans hu)
  · refine .inr ⟨hu.of_prefix hv.history, hfailures, ?_⟩
    rw [hu.mailbox]
    rfl

theorem ensures_syncFolder_wiped (hs : s.Solitary) (sess : Session) (folder : String)
    (w : World Memory) :
    Ensures (syncFolder sess folder) s w
      (fun r v => w.Unordered v ∨ w.Wiped v ∧ Overlooks s sess folder w r) w.Denied := by
  have h := (upholds_obeys hs sess).handles folder
  have hland (c : Collected) : Property.of (Obeys s) 0 .free _ (land folder c) :=
    h.free_bind (h.write .any c.batch) fun n => h.free_bind (h.commit c) fun _ => h.pure n
  rw [syncFolder_eq]
  refine .withLock (.inl (.refl w)) fun locks hlocks => ?_
  have hpass := (h.pass .changes (Locks.acquire?_free _) { w with locks }).running
  refine Ensures.mono (Ensures.bind hpass fun c v ⟨hv, hr⟩ => ?_) (R := fun r u =>
    ({ w with locks } : World Memory).Unordered u ∨
      ({ w with locks } : World Memory).Wiped u ∧ Overlooks s sess folder w r) ?_ ?_
  · have hlanded := (hland c v).mono (fun _ _ hu => hv.trans hu) fun _ _ hu => hu.of_unordered hv
    refine hlanded.bind fun n u hu => ?_
    refine (ensures_finish_wiped hs sess folder c n u).mono (fun r x hx => ?_)
      fun e x hx => hx.of_unordered hu
    rcases hx with hx | ⟨hx, hfailures, htruncated⟩
    · exact .inl (hu.trans hx)
    · refine .inr ⟨hx.of_prefix hu.history, hfailures, htruncated, locks, c, v, hlocks, hr, ?_⟩
      exact ⟨hv.history, hv.since⟩
  · rintro r u (hu | ⟨hu, ho⟩)
    · exact .inl hu.locks
    · exact .inr ⟨hu.locks, ho⟩
  · exact fun e u hu => hu.locks

theorem ensures_sync_wiped (hs : s.Solitary) (sess : Session) (folder : String)
    (w : World Memory) :
    Ensures (sync sess folder) s w
      (fun r v => w.Unordered v ∨
        w.Wiped v ∧ Overlooks s sess folder (w.record (.told (.started folder))) r) w.Denied := by
  have htell (notice : Notice) : Obeys s _ (Operation.tell notice) :=
    .of_only hs (.ofProgram ⟨trivial, fun _ => trivial⟩)
  have hstarted : w.Unordered (w.record (.told (.started folder))) :=
    (htell (.started folder) w).ok (Operation.runIn_tell ..)
  refine .bind_ok (Operation.runIn_tell ..) ?_
  refine (Ensures.attempt (ensures_syncFolder_wiped hs sess folder _)).bind fun r v hv => ?_
  -- The listener is told of the end, which changes nothing.
  rcases r with e | stats
  · have hfailed := (htell (.failed folder e) v).ok (Operation.runIn_tell ..)
    refine .bind_ok (Operation.runIn_tell ..) (.throw ?_)
    rcases World.Denied.of_unordered hstarted hv with hv | ⟨he, hv⟩
    · exact .inl (hv.trans hfailed)
    · exact .inr ⟨he, hv.still ⟨hfailed.history, rfl⟩⟩
  · have hfinished := (htell (.finished folder stats) v).ok (Operation.runIn_tell ..)
    refine .bind_ok (Operation.runIn_tell ..) (.pure ?_)
    rcases hv with hv | ⟨hv, ho⟩
    · exact .inl ((hstarted.trans hv).trans hfinished)
    · exact .inr ⟨(hv.of_prefix hstarted.history).still ⟨hfinished.history, rfl⟩, ho⟩

end Collection

/-- An order to wipe that comes while the operation runs leaves nothing, and the operation is denied
access. -/
def DeniedOnWipe (s : Surroundings Memory) (w : World Memory) (op : Operation α) : Prop :=
  w.Ordered (op.runIn s w).2 →
    (op.runIn s w).1 = .error .accessDenied ∧ (op.runIn s w).2.mailbox = .empty

theorem Operation.Obeys.deniedOnWipe {op : Operation α} (h : Obeys s α op) (w : World Memory) :
    DeniedOnWipe s w op := by
  intro ho
  have hw := h w
  rcases hr : op.runIn s w with ⟨e | a, v⟩
  · rw [hr] at ho
    rcases hw.error hr with hv | ⟨rfl, hv⟩
    · exact absurd ho hv.since
    · exact ⟨rfl, hv.mailbox⟩
  · rw [hr] at ho
    exact absurd ho (hw.ok hr).since

/-- Whenever the server orders a wipe nothing is left at the end, and access is denied. Only a sync
can end well all the same, if the order comes in the downloads that follow its changes. -/
theorem wipe_leaves_nothing {s : Surroundings Memory} (hs : s.Solitary) (sess : Session)
    (w : World Memory) :
    DeniedOnWipe s w (Client.refreshFolders sess) ∧
    (∀ mime, DeniedOnWipe s w (Client.send sess mime)) ∧
    (∀ source target ids, DeniedOnWipe s w (Client.moveMessages sess source target ids)) ∧
    ∀ folder,
      (∀ id, DeniedOnWipe s w (Client.download sess folder id)) ∧
      (∀ ids, DeniedOnWipe s w (Client.deleteMessages sess folder ids)) ∧
      (∀ ids flag state, DeniedOnWipe s w (Client.setFlag sess folder ids flag state)) ∧
      (w.Ordered ((Client.sync sess folder).runIn s w).2 →
        ((Client.sync sess folder).runIn s w).2.mailbox = .empty ∧
        match ((Client.sync sess folder).runIn s w).1 with
        | .error e => e = .accessDenied
        | .ok stats =>
          Collection.Overlooks s sess folder (w.record (.told (.started folder))) stats) := by
  have h := Operation.serves_obeys hs sess
  refine ⟨(Hierarchy.obeys_refresh hs sess).deniedOnWipe w, ?_, ?_, fun folder => ⟨?_, ?_, ?_, ?_⟩⟩
  · exact fun mime => Obeys.deniedOnWipe (h.send mime) w
  · exact fun source target ids => Obeys.deniedOnWipe (h.moveMessages source target ids) w
  · exact fun id => Obeys.deniedOnWipe ((h.upholds.handles folder).download id) w
  · exact fun ids => Obeys.deniedOnWipe ((h.upholds.handles folder).deleteMessages ids) w
  · intro ids flag state
    exact Obeys.deniedOnWipe ((h.upholds.handles folder).setFlag ids flag state) w
  · intro ho
    have hsync := Collection.ensures_sync_wiped hs sess folder w
    rcases hr : (Client.sync sess folder).runIn s w with ⟨e | stats, v⟩
    · rw [hr] at ho
      rcases hsync.error hr with hv | ⟨he, hv⟩
      · exact absurd ho hv.since
      · exact ⟨hv.mailbox, he⟩
    · rw [hr] at ho
      rcases hsync.ok hr with hv | ⟨hv, hoverlooks⟩
      · exact absurd ho hv.since
      · exact ⟨hv.mailbox, hoverlooks⟩

namespace DevicePolicy

/-- A reply of the handshake that orders a wipe. -/
def wipeReply : Except TransportError Reply :=
  let response := responseDocument 1 (some "t")
  .ok ⟨200, Wbxml.Element.encode
    { response with children := response.children ++ [.empty CodePage.Provision.remoteWipe] }⟩

theorem ordersWipe_wipeReply : OrdersWipe wipeReply := ⟨⟨1, some 1, some "t", true⟩, rfl, rfl⟩

end DevicePolicy

/-- A server that brings a message cut short, then demands the handshake and orders a wipe. -/
def turning : Script Memory where
  replies := [Collection.Response.reply ⟨1, some "1", false, [], []⟩ "5",
    Collection.Response.reply
      ⟨1, some "2", false,
        [.add { Message.blank "5:1" with mime := some [98], truncated := true }], []⟩ "5",
    .ok ⟨449, []⟩, DevicePolicy.wipeReply]
  meanwhile := []
  id := ""

theorem turning_solitary : turning.surroundings.Solitary :=
  Script.solitary_surroundings fun _ h => nomatch h

theorem turning_ordered :
    World.inbox.Ordered ((Client.sync .sample "5").runIn turning.surroundings .inbox).2 := by
  have h : (World.inbox.since
      ((Client.sync .sample "5").runIn turning.surroundings .inbox).2)[3]?.map
        (fun x => (x.1.command, x.2)) = some ("Provision", DevicePolicy.wipeReply) := rfl
  obtain ⟨x, hx, he⟩ := Option.map_eq_some_iff.mp h
  obtain ⟨hcommand, hreply⟩ := Prod.mk.inj he
  refine ⟨x, List.mem_of_getElem? hx, hcommand, ?_⟩
  rw [hreply]
  exact DevicePolicy.ordersWipe_wipeReply

/-- The order comes in the download of what was cut short. -/
theorem turning_leaves_nothing :
    turning.surroundings.Solitary ∧
    World.inbox.Ordered ((Client.sync .sample "5").runIn turning.surroundings .inbox).2 ∧
    ((Client.sync .sample "5").runIn turning.surroundings .inbox).2.mailbox = .empty ∧
    ∃ stats, ((Client.sync .sample "5").runIn turning.surroundings .inbox).1 = .ok stats ∧
      Collection.Overlooks turning.surroundings .sample "5"
        (World.inbox.record (.told (.started "5"))) stats := by
  have hsync := ((wipe_leaves_nothing turning_solitary .sample .inbox).2.2.2 "5").2.2.2
  obtain ⟨hempty, hresult⟩ := hsync turning_ordered
  refine ⟨turning_solitary, turning_ordered, hempty, _, rfl, hresult⟩

/-- Not every order to wipe ends in denied access. -/
theorem not_every_wipe_denies :
    ¬∀ (s : Surroundings Memory) (sess : Session) (folder : String) (w : World Memory),
      s.Solitary → DeniedOnWipe s w (Client.sync sess folder) := by
  intro h
  have hdenied := (h _ .sample "5" .inbox turning_solitary turning_ordered).1
  have hok : ((Client.sync .sample "5").runIn turning.surroundings .inbox).1.isOk = true := rfl
  rw [hdenied] at hok
  cases hok

end MailSync
