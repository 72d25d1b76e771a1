import MailSync.Proofs.Composition
import MailSync.Proofs.Notices

/-!
# Single flight

An operation takes the lock of a folder, and perhaps the one of the hierarchy while it holds the
other, and gives both back however it ends. So with nobody else about, none finds a lock of its own
taken, and each leaves the locks as they were. While somebody else holds the lock of a folder, what
would work on the folder is turned away at once.
-/
namespace MailSync
open Mailbox (Call Medium Memory)

variable {σ α β : Type} [Medium σ] {s : Surroundings σ}

/-- Whether an effect has to do with locks. -/
def Effect.isLocking : Effect → Bool
  | acquire _ | release _ => true
  | _ => false

/-- An effect that leaves the locks alone. -/
def Effect.Lockless (e : Effect) : Prop := e.isLocking = false

theorem Effect.locks_perform (hs : s.Solitary) {e : Effect} (h : e.Lockless) (w : World σ) :
    (e.perform s w).2.locks = w.locks := by
  cases e with
  | post account request =>
    obtain ⟨r, c, hr⟩ := Effect.perform_post hs account request w
    rw [hr]
    rfl
  | ask call =>
    simp only [perform]
    split <;> rfl
  | acquire lock => cases h
  | release lock => cases h
  | _ => rfl

theorem Program.Only.locks_run (hs : s.Solitary) {p : Program α} (h : p.Only Effect.Lockless)
    (w : World σ) : (p.run s w).2.locks = w.locks :=
  Only.run (R := fun w v => v.locks = w.locks) (fun _ => rfl) (fun _ _ _ h h' => h'.trans h)
    (fun _ he w => Effect.locks_perform hs he w) h w

namespace Operation

/-- Begun with some locks held, the operation leaves just these held, and does not find a lock
of its own taken. -/
def Unhindered (s : Surroundings σ) (locks : Locks) (op : Operation α) : Prop :=
  ∀ w, w.locks = locks →
    Ensures op s w (fun _ v => v.locks = locks) fun e v => v.locks = locks ∧ ¬e.InProgress

namespace Unhindered
variable {locks : Locks} {op : Operation α}

/-! ### How operations are put together -/

theorem pure (a : α) : Unhindered s locks (pure a) := fun _ hw => .pure hw

theorem throw {e : SyncError} (he : ¬e.InProgress) :
    Unhindered s locks (throw e : Operation α) := fun _ hw => .throw ⟨hw, he⟩

theorem bind {f : α → Operation β} (h : Unhindered s locks op)
    (hf : ∀ a, Unhindered s locks (f a)) : Unhindered s locks (op >>= f) :=
  fun w hw => (h w hw).bind fun a v hv => hf a v hv

/-- A failure is one to pass on. -/
theorem attempt {f : Except SyncError α → Operation β} (h : Unhindered s locks op)
    (hok : ∀ a, Unhindered s locks (f (.ok a)))
    (herror : ∀ e, ¬e.InProgress → Unhindered s locks (f (.error e))) :
    Unhindered s locks (ofProgram op.run >>= f) := by
  intro w hw
  refine (h w hw).attempt.bind fun r v hv => ?_
  cases r with
  | ok a => exact hok a v hv
  | error e => exact herror e hv.2 v hv.1

theorem ofProgram (hs : s.Solitary) {p : Program α} (h : p.Only Effect.Lockless) :
    Unhindered s locks (ofProgram p) :=
  fun w hw => .of_ok (runIn_ofProgram p s w) ((h.locks_run hs w).trans hw)

theorem ask (call : Call) : Unhindered s locks (ask call) := by
  refine fun w hw => .of_run fun r v hr => ?_
  have hv : ((Effect.ask call).perform s w).2.locks = locks := by
    simp only [Effect.perform]
    split <;> exact hw
  rw [runIn_ask] at hr
  obtain ⟨rfl, rfl⟩ := Prod.mk.inj hr
  cases ((Effect.ask call).perform s w).1 with
  | ok answer => exact hv
  | error e => exact ⟨hv, id⟩

theorem tell (notice : Notice) : Unhindered s locks (tell notice) :=
  fun w hw => .of_ok (runIn_tell notice s w) hw

theorem checkCancelled : Unhindered s locks checkCancelled :=
  fun _ hw => .checkCancelled (fun _ => hw) fun _ => ⟨hw, id⟩

/-- A lock that is free is held meanwhile, and free again in the end. -/
theorem withLock {lock : String} {taken : Locks} (hfree : locks.acquire? lock = some taken)
    (h : Unhindered s taken op) : Unhindered s locks (withLock lock op) := by
  intro w hw
  have hback {v : World σ} (hv : v.locks = taken) : v.locks.release lock = locks := by
    rw [hv]
    exact Locks.release_acquire hfree
  unfold Ensures
  rw [runIn_withLock_free (hw ▸ hfree)]
  have hop := h { w with locks := taken } rfl
  rcases hr : op.runIn s { w with locks := taken } with ⟨e | a, v⟩
  · exact ⟨hback (hop.error hr).1, (hop.error hr).2⟩
  · exact hback (hop.ok hr)

theorem composes : Composes fun _ locks _ op => Unhindered s locks op where
  pure := pure
  throw := throw
  bind h hf _ := bind h hf
  withLock hfree h _ := withLock hfree h
  look := checkCancelled
  tell := tell

theorem withstands (hs : s.Solitary) (sess : Session) :
    Withstands (fun _ locks _ op => Unhindered s locks op) sess where
  toServes := composes.serves ask (ofProgram hs ⟨rfl, fun _ => trivial⟩) fun _ _ _ =>
    ofProgram hs ⟨rfl, fun _ => trivial⟩
  attempt h hok herror _ := attempt h hok fun e he => herror e (throw he)

end Unhindered

/-! ### A lock that somebody else holds -/

/-- The operation was turned away: nothing was sent or stored, and if anything happened at all, the
listener was told. -/
structure TurnedAway (w : World σ) (lock : String) (r : Except SyncError α × World σ) : Prop where
  error : r.1 = .error (.syncInProgress lock)
  requests : r.2.requests = w.requests
  mailbox : r.2.mailbox = w.mailbox
  locks : r.2.locks = w.locks
  told : w.Adds (fun moment => ∃ notice, moment.event = .told notice) r.2

namespace TurnedAway
variable {w : World σ} {lock : String} {op : Operation α}

theorem withLock (hheld : w.locks.isHeld lock = true) :
    TurnedAway w lock ((withLock lock op).runIn s w) := by
  rw [runIn_withLock_held (Locks.acquire?_eq_none_iff.mpr hheld)]
  exact ⟨rfl, rfl, rfl, rfl, .refl _ w⟩

theorem discard (h : TurnedAway w lock (op.runIn s w)) :
    TurnedAway w lock ((discard op).runIn s w) := by
  rw [runIn_discard, h.error]
  exact ⟨rfl, h.requests, h.mailbox, h.locks, h.told⟩

theorem sync (sess : Session) {folder : String}
    (hheld : w.locks.isHeld (Locks.ofFolder folder) = true) :
    TurnedAway w (Locks.ofFolder folder) ((Collection.sync sess folder).runIn s w) := by
  have hrequests (w : World σ) (notice : Notice) :
      (w.record (.told notice)).requests = w.requests := by
    simp [World.requests, World.record]
  have hfolder : (Collection.syncFolder sess folder).runIn s (w.record (.told (.started folder))) =
      (.error (.syncInProgress (Locks.ofFolder folder)), w.record (.told (.started folder))) := by
    rw [Collection.syncFolder, runIn_withLock_held]
    exact Locks.acquire?_eq_none_iff.mpr hheld
  have hrun := runIn_ofProgram (Collection.syncFolder sess folder).run s
    (w.record (.told (.started folder)))
  rw [show (Collection.syncFolder sess folder).run.run s _ = _ from hfolder] at hrun
  rw [Collection.sync, runIn_bind_ok (runIn_tell _ s w), runIn_bind_ok hrun,
    runIn_bind_ok (runIn_tell ..)]
  refine ⟨rfl, (hrequests _ _).trans (hrequests _ _), rfl, rfl, ?_⟩
  exact (World.Adds.record ⟨_, rfl⟩).trans (.record ⟨_, rfl⟩)

end TurnedAway
end Operation

namespace Client

/-- The operations on the messages of a folder that hold its lock. -/
inductive Engages (sess : Session) (folder : String) : (α : Type) → Operation α → Prop
  | sync : Engages sess folder _ (sync sess folder)
  | download (id : String) : Engages sess folder _ (download sess folder id)
  | deleteMessages {ids : List String} (some : ids ≠ []) :
      Engages sess folder _ (deleteMessages sess folder ids)
  | setFlag {ids : List String} (some : ids ≠ []) {flag : Flag} {state : Bool}
      (taken : flag = .seen ∨ flag = .flagged ∨ flag = .deleted ∧ state = true) :
      Engages sess folder _ (setFlag sess folder ids flag state)

theorem Engages.turnedAway {sess : Session} {folder : String} {op : Operation α} {w : World σ}
    (h : Engages sess folder α op) (hheld : w.locks.isHeld (Locks.ofFolder folder) = true) :
    Operation.TurnedAway w (Locks.ofFolder folder) (op.runIn s w) := by
  have hdelete {ids : List String} (hids : ids ≠ []) : Operation.TurnedAway w
      (Locks.ofFolder folder) ((Collection.deleteMessages sess folder ids).runIn s w) := by
    rw [Collection.deleteMessages, if_neg (by simpa using hids)]
    exact .withLock hheld
  have hchange {ids : List String} (hids : ids ≠ []) {flag : Flag} {state : Bool}
      (hflag : flag = .seen ∨ flag = .flagged) : Operation.TurnedAway w (Locks.ofFolder folder)
        ((Collection.setFlag sess folder ids flag state).runIn s w) := by
    have hsome : ¬ids.isEmpty = true := by simpa using hids
    rcases hflag with rfl | rfl
    · simp only [Collection.setFlag, if_neg hsome]
      exact .withLock hheld
    · simp only [Collection.setFlag, if_neg hsome]
      exact .withLock hheld
  cases h with
  | sync => exact .sync sess hheld
  | download id => exact .withLock hheld
  | deleteMessages hids => exact hdelete hids
  | setFlag hids hflag =>
    rcases hflag with rfl | rfl | ⟨rfl, rfl⟩
    · exact hchange hids (.inl rfl)
    · exact hchange hids (.inr rfl)
    · exact .discard (hdelete hids)

end Client

/-- A server that tells of a change in the hierarchy and then falls silent. -/
def changing : Script Memory where
  replies := [Collection.Response.reply ⟨12, none, false, [], []⟩ "5"]
  meanwhile := []
  id := ""

theorem changing_solitary : changing.surroundings.Solitary :=
  Script.solitary_surroundings fun _ h => nomatch h

/-- Single flight. However guards are taken and dropped, a lock can be taken just when no guard of
its name lives, the guards that live have different names, and to drop one frees its name and no
other; folders have names of their own, and so has the hierarchy. So what a client does with no
lock held and nobody else about is never turned away and leaves no lock held, even where it takes
the lock of the hierarchy while it holds that of a folder; and what would work on a folder while
its lock is held is turned away at once. -/
theorem single_flight (hs : s.Solitary) (sess : Session) (w : World σ) :
    (∀ moves, let r := Locks.Registry.after moves
      (∀ name, (r.acquire? name).isSome = true ↔ name ∉ r.live) ∧ r.live.Nodup ∧
      ∀ place name, r.live[place]? = some name →
        (∀ other, other ∈ (r.drop place).live ↔ other ≠ name ∧ other ∈ r.live) ∧
        ∀ other, (r.drop place).locks.isHeld other = true ↔
          other ≠ name ∧ r.locks.isHeld other = true) ∧
    (∀ a b, Locks.ofFolder a = Locks.ofFolder b → a = b) ∧
    (∀ a, Locks.ofFolder a ≠ Locks.hierarchy) ∧
    (w.locks = .free → ∀ (α : Type) (op : Operation α),
      Client.Offers sess α op ∨ (∃ what, op = Client.refuse what) →
      (∀ lock, (op.runIn s w).1 ≠ .error (.syncInProgress lock)) ∧
        (op.runIn s w).2.locks = .free) ∧
    (∃ script : Script Memory, script.surroundings.Solitary ∧
      (((Client.sync .sample "5").trace script.surroundings .inbox).map (·.1)).filter
        Effect.isLocking =
          [.acquire (Locks.ofFolder "5"), .acquire Locks.hierarchy, .release Locks.hierarchy,
            .release (Locks.ofFolder "5")]) ∧
    ∀ folder, w.locks.isHeld (Locks.ofFolder folder) = true →
      ∀ (α : Type) (op : Operation α), Client.Engages sess folder α op →
        Operation.TurnedAway w (Locks.ofFolder folder) (op.runIn s w) := by
  refine ⟨fun moves => ?_, fun _ _ => Locks.ofFolder_injective, Locks.ofFolder_ne_hierarchy,
    fun hfree α op hop => ?_, ⟨changing, changing_solitary, rfl⟩,
    fun folder hheld α op hop => hop.turnedAway hheld⟩
  · have hr := Locks.Registry.sound_after moves
    exact ⟨hr.acquire?_isSome_iff, hr.nodup, fun place name hp =>
      ⟨hr.mem_live_drop hp, Locks.Registry.Sound.isHeld_drop hp⟩⟩
  · have h : Operation.Unhindered s .free op := by
      rcases hop with hop | ⟨what, rfl⟩
      · exact ((Operation.Unhindered.withstands hs sess).offers hop).elim fun _ h => h
      · exact .throw id
    have hrun := h w hfree
    rcases hr : op.runIn s w with ⟨e | a, v⟩
    · obtain ⟨hv, he⟩ := hrun.error hr
      exact ⟨fun lock hlock => he (Except.error.inj hlock ▸ trivial), hv⟩
    · exact ⟨fun lock hlock => (nomatch hlock), hrun.ok hr⟩

/-- A sync that takes both locks, with nobody else about and with somebody else at the folder. -/
theorem single_flight_changing :
    changing.surroundings.Solitary ∧
    ((Client.sync .sample "5").runIn changing.surroundings .inbox).2.locks = .free ∧
    (∀ lock, ((Client.sync .sample "5").runIn changing.surroundings .inbox).1 ≠
      .error (.syncInProgress lock)) ∧
    ∀ locks, Locks.free.acquire? (Locks.ofFolder "5") = some locks →
      Operation.TurnedAway { World.inbox with locks } (Locks.ofFolder "5")
        ((Client.sync .sample "5").runIn changing.surroundings { World.inbox with locks }) := by
  have h := (single_flight changing_solitary .sample .inbox).2.2.2.1 rfl _ (Client.sync .sample "5")
    (.inl (.sync "5"))
  refine ⟨changing_solitary, h.2, h.1, fun locks hl => ?_⟩
  have hheld : locks.isHeld (Locks.ofFolder "5") = true :=
    (Locks.isHeld_of_acquire? hl _).mpr (.inl rfl)
  exact (single_flight changing_solitary .sample { World.inbox with locks }).2.2.2.2.2 "5" hheld _ _
    .sync

end MailSync
