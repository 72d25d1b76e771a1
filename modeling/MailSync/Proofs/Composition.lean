import MailSync.Client
import MailSync.Proofs.Collection.Effects
import MailSync.Proofs.Locks
import MailSync.Proofs.Tally

/-!
# Properties of operations that are put together

All that a client can do is put together from a few parts: calls to the mailbox, turns of a pass,
the legs of the policy handshake, the writing of a batch of folders, the saving of a message as it
came, the copy of a moved message, and locks around them. A property that holds of the parts and is
kept when one operation follows another holds of every operation. It may speak of what is costly and
of the locks that are held: in a sequence the costs add up, and under a lock the lock is held. Where
operations go on after a failure of a part, the property must be kept there as well.

No part fails because a lock is taken, except the locks themselves. So all that is put together
under free locks fails for other reasons only.
-/
namespace MailSync
open Mailbox (Call)

/-- The error of an operation that finds a lock taken. -/
def SyncError.InProgress : SyncError → Prop
  | syncInProgress _ => True
  | _ => False

theorem Failure.not_inProgress_toError (f : Failure) (subject : String) :
    ¬(f.toError subject).InProgress := by
  obtain ⟨verdict, detail⟩ := f
  cases verdict <;> exact id

/-- A call that puts folders or messages in. -/
def Mailbox.Call.putsIn : Call → Bool
  | createFolders _ | saveMessage .. => true
  | _ => false

namespace Client

/-- The operations that a client offers for one account. -/
inductive Offers (sess : Session) : (α : Type) → Operation α → Prop
  | refreshFolders : Offers sess _ (refreshFolders sess)
  | sync (folder : String) : Offers sess _ (sync sess folder)
  | download (folder id : String) : Offers sess _ (download sess folder id)
  | setFlag (folder : String) (ids : List String) (flag : Flag) (state : Bool) :
      Offers sess _ (setFlag sess folder ids flag state)
  | deleteMessages (folder : String) (ids : List String) :
      Offers sess _ (deleteMessages sess folder ids)
  | moveMessages (source target : String) (ids : List String) :
      Offers sess _ (moveMessages sess source target ids)
  | send (mime : Bytes) : Offers sess _ (send sess mime)
  | checkServer : Offers sess _ (checkServer sess)
  | window (folder : String) : Offers sess _ (window folder)
  | setWindow (folder : String) (w : Window) : Offers sess _ (setWindow folder w)
  | widenWindow (folder : String) : Offers sess _ (widenWindow folder)

end Client

/-! ### What a pass may still take -/

/-- The handshakes that are left to a pass. -/
def Hierarchy.Progress.handshakes (p : Progress) : Nat := if p.provisioned then 0 else 1

/-- What a pass over the hierarchy may ask for. -/
def Hierarchy.passTally (sess : Session) : Tally := ⟨0, sess.maxRounds, 2, 1⟩

namespace Collection

/-- The handshakes that are left to a pass, apart from those of a pass over the hierarchy. -/
def Progress.handshakes (p : Progress) : Nat := if p.provisioned then 0 else 1

/-- The passes over the hierarchy that are left to a pass. -/
def Progress.refreshes (p : Progress) : Nat := if p.refreshed then 0 else 1

/-- What a pass may still ask for, with so many rounds left. -/
def Progress.allowance (sess : Session) (p : Progress) (left : Nat) : Tally where
  syncs := left
  folderSyncs := sess.maxRounds * p.refreshes
  provisions := 2 * p.handshakes + 2 * p.refreshes
  passes := p.refreshes

theorem Progress.Takes.allowance {p q : Progress} {round : Round Batch} (h : p.Takes round q)
    (sess : Session) (left : Nat) : q.allowance sess left = p.allowance sess left := by
  rw [Progress.allowance, handshakes, refreshes, h.provisioned, h.refreshed]
  rfl

/-- What a pass over a collection may ask for. -/
def passTally (sess : Session) : Tally := ⟨sess.maxRounds, sess.maxRounds, 4, 1⟩

theorem allowance_start (sess : Session) (errand : Errand) (stored : Option String) :
    (Progress.start errand stored).allowance sess sess.maxRounds = passTally sess := by
  simp [Progress.allowance, Progress.handshakes, Progress.refreshes, Progress.start, passTally]

end Collection

namespace Operation

/-- A property of operations. It may depend on what is costly in an operation, and on the locks that
are held when it begins. -/
abbrev Property := Tally → Locks → (α : Type) → Operation α → Prop

/-- A property that depends on neither. -/
def Property.of (Q : (α : Type) → Operation α → Prop) : Property := fun _ _ => Q

/-- Looks before anything else whether the user has cancelled. -/
def LooksFirst {α : Type} (op : Operation α) : Prop := ∃ f, op = checkCancelled >>= f

/-- A property that is kept in sequence and under locks. -/
structure Composes (P : Property) : Prop where
  pure {locks : Locks} {α : Type} (a : α) : P 0 locks α (pure a)
  throw {locks : Locks} {α : Type} {e : SyncError} : ¬e.InProgress → P 0 locks α (throw e)
  bind {n m k : Tally} {locks : Locks} {α β : Type} {op : Operation α} {f : α → Operation β} :
    P n locks α op → (∀ a, P m locks β (f a)) → n + m ≤ k → P k locks β (op >>= f)
  withLock {n k : Tally} {lock : String} {locks taken : Locks} {α : Type} {op : Operation α} :
    locks.acquire? lock = some taken → P n taken α op → .ofLock lock + n ≤ k →
      P k locks α (withLock lock op)
  look {locks : Locks} : P 0 locks _ checkCancelled
  tell {locks : Locks} (notice : Notice) : P 0 locks _ (tell notice)

/-- A property that is kept as well where an operation goes on after a failure. The error may be
thrown again. -/
structure Resumes (P : Property) : Prop where
  attempt {n m k : Tally} {locks : Locks} {α β : Type} {op : Operation α}
    {f : Except SyncError α → Operation β} : P n locks α op → (∀ a, P m locks β (f (.ok a))) →
    (∀ e, (∀ {γ : Type}, P 0 locks γ (MonadExcept.throw e)) → P m locks β (f (.error e))) →
    n + m ≤ k → P k locks β (ofProgram op.run >>= f)

/-- A property that holds of the calls about one folder. -/
structure Touches (P : Property) (folder : String) : Prop extends Composes P where
  ask {locks : Locks} (call : Call) :
    call.Within folder → call.putsIn = false → P 0 locks _ (ask call)
  save {locks : Locks} (m : Message) :
    P 0 locks _ (Operation.ask (.saveMessage folder m m.downloadState))

/-- A property that holds of the passes over one folder, where the lock of the hierarchy is free. -/
structure Handles (P : Property) (sess : Session) (folder : String) : Prop
    extends Touches P folder where
  pass {locks taken : Locks} (errand : Collection.Errand) :
    locks.acquire? Locks.hierarchy = some taken →
      P (Collection.passTally sess) locks _ (Collection.pass sess folder errand)

/-- A property that holds of all calls to the mailbox. What is put in is a batch of folders or a
message as it came. -/
structure Stores (P : Property) : Prop extends Composes P where
  ask {locks : Locks} (call : Call) : call.putsIn = false → P 0 locks _ (ask call)
  save {locks : Locks} (folder : String) (m : Message) :
    P 0 locks _ (Operation.ask (.saveMessage folder m m.downloadState))
  rewrite {locks : Locks} (batch : Hierarchy.Batch) : P 0 locks _ (Hierarchy.write batch)

/-- A property that holds of all that passes are made of. After the handshake a pass looks whether
the user has cancelled, and the property may count on that. -/
structure Upholds (P : Property) (sess : Session) : Prop extends Stores P where
  turn {locks : Locks} {ε : Type} {exchange : Account → Program ε} (request : Request)
    (g : Except TransportError Reply → ε) : request.command ≠ "Provision" →
    (∀ account, exchange account =
      Program.effect (.post account request) >>= fun r => Pure.pure (g r)) →
    P (.ofCommand request.command) locks ε (sess.turn exchange)
  handshake {n k : Tally} {locks : Locks} {α : Type} {op : Operation α} :
    LooksFirst op → P n locks α op → ⟨0, 0, 2, 0⟩ + n ≤ k →
      P k locks α (sess.provision >>= fun _ => op)

/-- A property that holds of all parts of operations by themselves. -/
structure Serves (P : Property) (sess : Session) : Prop extends Stores P where
  copy {locks : Locks} (source target id newId : String) :
    P 0 locks _ (Relocation.copy source target id newId)
  freshId {locks : Locks} : P 0 locks _ freshId
  post {locks : Locks} {ε : Type} (account : Account) (request : Request)
    (g : Except TransportError Reply → ε) : request.command ≠ "Provision" →
    P (.ofCommand request.command) locks ε
      (ofProgram (Program.effect (.post account request) >>= fun r => Pure.pure (g r)))
  provision {locks : Locks} : P ⟨0, 0, 2, 0⟩ locks _ sess.provision

/-- A property that holds of the parts and is kept wherever an operation goes on. -/
structure Withstands (P : Property) (sess : Session) : Prop
    extends Serves P sess, Resumes P

variable {P : Property} {sess : Session} {folder : String} {n k : Tally} {locks taken : Locks}

namespace Composes
variable {α β ι : Type} (h : Composes P)
include h

theorem mono {op : Operation α} (hop : P n locks α op) (hk : n ≤ k) : P k locks α op := by
  rw [← bind_pure op]
  exact h.bind hop h.pure (Tally.le_trans (Tally.add_zero_le n) hk)

/-- What costs nothing leaves all to what follows. -/
theorem free_bind {op : Operation α} {f : α → Operation β} (hop : P 0 locks α op)
    (hf : ∀ a, P n locks β (f a)) : P n locks β (op >>= f) :=
  h.bind hop hf (Tally.zero_add_le n)

theorem bind_free {op : Operation α} {f : α → Operation β} (hop : P n locks α op)
    (hf : ∀ a, P 0 locks β (f a)) : P n locks β (op >>= f) :=
  h.bind hop hf (Tally.add_zero_le n)

theorem discard {op : Operation α} (hop : P n locks α op) : P n locks _ (discard op) := by
  change P n locks _ (Functor.mapConst () op)
  rw [LawfulFunctor.map_const, Function.comp_apply, map_eq_pure_bind]
  exact h.bind_free hop fun _ => h.pure ()

theorem forM {l : List ι} {f : ι → Operation Unit} (hf : ∀ i, P 0 locks _ (f i)) :
    P 0 locks _ (l.forM f) := by
  induction l with
  | nil => exact h.pure ()
  | cons i l ih =>
    rw [List.forM_eq_forM, List.forM_cons]
    exact h.free_bind (hf i) fun _ => ih

/-- What a failure leads to may fail in its turn. -/
theorem recover (hr : Resumes P) {op : Operation α} {f : SyncError → Operation α}
    (hop : P n locks α op) (hf : ∀ e, P 0 locks α (MonadExcept.throw e) → P 0 locks α (f e)) :
    P n locks α (tryCatch op f) := by
  have he : tryCatch op f = ofProgram op.run >>= Except.rec f Pure.pure := by
    change ExceptT.mk (op.run >>= _) =
      ExceptT.mk ((op.run >>= fun a => Pure.pure (Except.ok a)) >>= _)
    rw [bind_assoc]
    refine congrArg (op.run >>= ·) (funext fun r => ?_)
    cases r <;> rfl
  rw [he]
  exact hr.attempt hop (fun a => h.pure a) (fun e he => hf e he) (Tally.add_zero_le n)

theorem announce (folder : String) (ms : List Message) :
    P 0 locks _ (Collection.announce folder ms) :=
  h.forM fun _ => h.tell _

/-- The lock of a folder is free where none is held, and that of the hierarchy is then left. -/
theorem lockFolder {op : Operation α}
    (hop : ∀ {locks taken : Locks}, locks.acquire? Locks.hierarchy = some taken → P n locks α op) :
    P n .free α (Operation.withLock (Locks.ofFolder folder) op) := by
  obtain ⟨locks, hl⟩ : ∃ locks, Locks.free.acquire? (Locks.ofFolder folder) = some locks :=
    ⟨_, Locks.acquire?_free _⟩
  have hother : ¬locks.isHeld Locks.hierarchy = true := by
    rw [Locks.isHeld_of_acquire? hl, Locks.isHeld_free]
    exact fun h => h.elim (fun he => Locks.ofFolder_ne_hierarchy folder he.symm) (nomatch ·)
  obtain ⟨taken, ht⟩ := Option.isSome_iff_exists.mp (Locks.acquire?_isSome_iff.mpr hother)
  refine h.withLock hl (hop ht) ?_
  rw [Tally.ofLock_ofFolder]
  exact Tally.zero_add_le n

section
open DevicePolicy

/-- A leg is one exchange. -/
theorem leg {settings : ProtocolSettings} {account : Account} {root : Wbxml.Element}
    (hpost : P ⟨0, 0, 1, 0⟩ locks _ (ofProgram (exchange settings account root)))
    (hwipe : P 0 locks _ (ask .wipe)) :
    P ⟨0, 0, 1, 0⟩ locks _ (leg (DevicePolicy.exchange settings account root)) := by
  refine h.bind_free hpost fun o => ?_
  cases o with
  | error f => exact h.throw (f.not_inProgress_toError _)
  | ok r =>
    refine h.free_bind ?_ fun _ => h.pure r
    unfold obey
    split_ifs
    · exact h.free_bind hwipe fun _ => h.throw id
    · exact h.throw id
    · exact h.pure ()

/-- The handshake has two legs. -/
theorem provision
    (hleg : ∀ account root,
      P ⟨0, 0, 1, 0⟩ locks _ (DevicePolicy.leg (exchange sess.settings account root)))
    (hkey : ∀ key, P 0 locks _ (Mailbox.setPolicyKey key)) :
    P ⟨0, 0, 2, 0⟩ locks _ sess.provision := by
  have hrequire (what : String) (key : Option String) : P 0 locks _ (requireKey what key) := by
    cases key with
    | none => exact h.throw id
    | some key => exact h.pure key
  unfold Session.provision
  split_ifs
  · refine h.bind (m := ⟨0, 0, 1, 0⟩) (hleg _ _) (fun offer => ?_) (by decide)
    split_ifs
    · exact h.mono (hkey none) (Tally.zero_le _)
    · refine h.free_bind (hrequire _ _) fun temporary => h.bind_free (hleg _ _) fun final => ?_
      exact h.free_bind (hrequire _ _) fun key => hkey (some key)
  · exact h.mono (h.throw id) (Tally.zero_le _)

end

/-! Where no call to the mailbox is of any account. -/

section
variable (hask : ∀ {locks : Locks} (call : Call), P 0 locks _ (ask call))
include hask

theorem stores : Stores P where
  toComposes := h
  ask call _ := hask call
  save _ _ := hask _
  rewrite batch := by
    refine h.free_bind (hask .folders) fun _ => ?_
    exact h.free_bind (h.forM fun call => h.discard (hask call)) fun _ => h.pure _

theorem copy (source target id newId : String) :
    P 0 locks _ (Relocation.copy source target id newId) := by
  refine h.free_bind (hask (.message source id)) fun stored => ?_
  cases stored with
  | none => exact h.pure ()
  | some stored =>
    exact hask (.saveMessage target { stored.message with id := newId } stored.state)

/-- Nor any request, but for what it costs. -/
theorem serves (hid : ∀ {locks : Locks}, P 0 locks _ freshId)
    (hpost : ∀ {locks : Locks} {ε : Type} account (request : Request)
      (g : Except TransportError Reply → ε), P (.ofCommand request.command) locks ε
        (ofProgram (Program.effect (.post account request) >>= fun r => Pure.pure (g r)))) :
    Serves P sess where
  toStores := h.stores hask
  copy := h.copy hask
  freshId := hid
  post account request g _ := hpost account request g
  provision := by
    refine h.provision (fun account root => h.leg ?_ (hask .wipe)) fun key =>
      hask (.setExtra Mailbox.policyKeyMark key)
    exact hpost account (Exchange.request "Provision" root sess.settings.commandTimeout)
      DevicePolicy.outcome

end
end Composes

namespace Touches
variable (h : Touches P folder)
include h
open Collection

theorem requireFolder : P 0 locks _ (requireFolder folder) := by
  refine h.free_bind (h.ask (.folder folder) trivial rfl) fun found => ?_
  cases found with
  | none => exact h.throw id
  | some record => exact h.pure ()

theorem windowOf : P 0 locks _ (windowOf folder) := by
  refine h.free_bind h.requireFolder fun _ => h.free_bind ?_ fun _ => h.pure _
  exact h.free_bind (h.ask (.folderExtra folder Mailbox.windowMark) trivial rfl) fun _ => h.pure _

theorem pass_of_collect {errand : Errand}
    (hcollect : ∀ window stored, P n locks _
      (collect sess folder errand window sess.maxRounds (.start errand stored))) :
    P n locks _ (pass sess folder errand) := by
  refine h.free_bind h.requireFolder fun _ => h.free_bind h.windowOf fun window => ?_
  refine h.free_bind (h.ask (.folderExtra folder Mailbox.keyMark) trivial rfl) fun stored => ?_
  exact h.bind_free (hcollect _ _) fun _ => h.free_bind h.look fun _ => h.pure _

theorem deltaWrite (bodies : Bodies) (d : Delta) : P 0 locks _ (d.write folder bodies) := by
  cases d with
  | flag id which state => exact h.ask (.setFlag folder id which state) rfl rfl
  | delete id =>
    exact h.free_bind (h.discard (h.ask (.destroyMessages folder [id]) rfl rfl)) fun _ => h.pure _
  | add m =>
    refine h.free_bind (h.discard ?_) fun _ => h.pure _
    by_cases hm : bodies.rejects m
    · rw [show (Delta.add m).call folder bodies = .destroyMessages folder [m.id] from if_pos hm]
      exact h.ask (.destroyMessages folder [m.id]) rfl rfl
    · rw [show (Delta.add m).call folder bodies = .saveMessage folder m m.downloadState from
        if_neg hm]
      exact h.save m

theorem writeAll (bodies : Bodies) (ds : List Delta) : P 0 locks _ (writeAll folder bodies ds) := by
  induction ds with
  | nil => exact h.pure 0
  | cons d ds ih =>
    exact h.free_bind (h.deltaWrite bodies d) fun _ => h.free_bind ih fun _ => h.pure _

theorem write (bodies : Bodies) (b : Batch) : P 0 locks _ (b.write folder bodies) := by
  unfold Batch.write
  split_ifs
  · exact h.free_bind (h.ask (.removeAllMessages folder) rfl rfl) fun _ => h.writeAll bodies _
  · exact h.writeAll bodies _

theorem commit (c : Collected) : P 0 locks _ (commit folder c) := by
  unfold Collection.commit
  split_ifs
  · exact h.ask (.setFolderExtra folder Mailbox.keyMark c.key) ⟨rfl, rfl⟩ rfl
  · exact h.pure ()

theorem settle (b : Batch) (ids : List String) (r : Report) :
    P 0 locks _ (settle folder b ids r) := by
  induction ids generalizing r with
  | nil => exact h.pure r
  | cons id ids ih =>
    unfold Collection.settle
    split_ifs
    · exact ih r
    · split
      · split_ifs
        · exact h.free_bind (h.ask (.destroyMessages folder [id]) rfl rfl) fun _ => ih _
        · exact ih _
      · exact ih _

end Touches

namespace Handles
variable (h : Handles P sess folder)
include h
open Collection

section
variable (hfree : locks.acquire? Locks.hierarchy = some taken)
include hfree

theorem fetch (ids : List String) : P (passTally sess) locks _ (fetch sess folder ids) := by
  refine h.bind_free (h.pass (.fetch ids) hfree) fun c => ?_
  refine h.free_bind (h.discard (h.write _ c.batch)) fun _ => ?_
  refine h.free_bind (h.settle c.batch ids _) fun report => ?_
  exact h.free_bind (h.commit c) fun _ => h.pure report

theorem complete (ids : List String) : P (passTally sess) locks _ (complete sess folder ids) :=
  h.bind_free (h.fetch hfree ids) fun r =>
    h.free_bind (h.announce folder r.downloaded) fun _ => h.pure r

theorem completeAll (hr : Resumes P) (stats : Stats) :
    P (passTally sess) locks _ (completeAll sess folder stats) := by
  have hdone (stats : Stats) : P (passTally sess) locks _ (Pure.pure stats) :=
    h.mono (h.pure stats) (Tally.zero_le _)
  refine hr.attempt (h.ask (.truncatedIds folder) trivial rfl) (fun ids => ?_) (fun e _ => hdone _)
    (Tally.zero_add_le _)
  cases ids with
  | nil => exact hdone stats
  | cons id ids =>
    exact hr.attempt (h.complete hfree _) (fun r => h.pure _) (fun e _ => h.pure _)
      (Tally.add_zero_le _)

end

theorem download (id : String) : P (passTally sess) .free _ (download sess folder id) := by
  refine h.lockFolder fun hfree => h.free_bind h.requireFolder fun _ => ?_
  refine h.free_bind (h.ask (.message folder id) trivial rfl) fun stored => ?_
  cases stored with
  | none => exact h.mono (h.throw not_false) (Tally.zero_le _)
  | some stored =>
    dsimp only
    split_ifs
    · exact h.mono (h.pure _) (Tally.zero_le _)
    · refine h.free_bind (h.ask (.folderExtra folder Mailbox.keyMark) trivial rfl) fun key => ?_
      split_ifs
      · exact h.mono (h.throw not_false) (Tally.zero_le _)
      · refine h.bind_free (h.fetch hfree [id]) fun r => ?_
        unfold Report.outcome
        split
        · exact h.pure _
        · exact h.pure _
        · exact h.throw not_false
        · exact h.throw not_false

theorem deleteMessages (ids : List String) :
    P (passTally sess) .free _ (deleteMessages sess folder ids) := by
  unfold Collection.deleteMessages
  split_ifs
  · exact h.mono (h.pure _) (Tally.zero_le _)
  refine h.lockFolder fun hfree => h.bind_free (h.pass _ hfree) fun c => ?_
  refine h.free_bind (h.discard (h.write _ c.batch)) fun _ => ?_
  refine h.free_bind (h.ask (.destroyMessages folder _) rfl rfl) fun _ => ?_
  exact h.free_bind (h.commit c) fun _ => h.pure _

theorem changeFlag (ids : List String) (flag : Flag) (state : Bool) :
    P (passTally sess) .free _ (changeFlag sess folder ids flag state) := by
  refine h.lockFolder fun hfree => h.bind_free (h.pass _ hfree) fun c => ?_
  refine h.free_bind (h.discard (h.write _ c.batch)) fun _ => ?_
  refine h.free_bind (h.forM fun id => ?_) fun _ => h.commit c
  exact h.discard (h.ask (.setFlag folder id flag state) rfl rfl)

theorem setFlag (ids : List String) (flag : Flag) (state : Bool) :
    P (passTally sess) .free _ (setFlag sess folder ids flag state) := by
  unfold Collection.setFlag
  split
  · exact h.mono (h.throw not_false) (Tally.zero_le _)
  · exact h.discard (h.deleteMessages ids)
  · exact h.mono (h.throw not_false) (Tally.zero_le _)
  · exact h.mono (h.throw not_false) (Tally.zero_le _)
  · split_ifs
    · exact h.mono (h.pure ()) (Tally.zero_le _)
    · exact h.changeFlag ids _ state

/-- A sync is two passes at most, the second one for what was cut short. -/
theorem syncFolder (hr : Resumes P) :
    P (passTally sess + passTally sess) .free _ (syncFolder sess folder) := by
  refine h.lockFolder fun hfree => ?_
  refine h.bind (h.pass .changes hfree) (fun c => ?_) (Tally.le_refl _)
  refine h.free_bind (h.write _ c.batch) fun flagsChanged => h.free_bind (h.commit c) fun _ => ?_
  refine h.free_bind (h.announce folder _) fun _ => ?_
  refine h.bind_free (h.completeAll hfree hr _) fun stats => ?_
  exact h.free_bind (h.ask (.truncatedIds folder) trivial rfl) fun _ => h.pure _

theorem sync (hr : Resumes P) :
    P (passTally sess + passTally sess) .free _ (sync sess folder) := by
  refine h.free_bind (h.tell _) fun _ => ?_
  refine hr.attempt (h.syncFolder hr) (fun stats => ?_) (fun e he => ?_) (Tally.add_zero_le _)
  · exact h.free_bind (h.tell _) fun _ => h.pure stats
  · exact h.free_bind (h.tell _) fun _ => he

end Handles

theorem looksFirst_hierarchyCollect (sess : Session) (left : Nat) (p : Hierarchy.Progress) :
    LooksFirst (Hierarchy.collect sess left p) := by
  unfold Hierarchy.collect
  exact ⟨_, rfl⟩

theorem looksFirst_collect (sess : Session) (folder : String) (errand : Collection.Errand)
    (window : Window) (left : Nat) (p : Collection.Progress) :
    LooksFirst (Collection.collect sess folder errand window left p) := by
  unfold Collection.collect
  exact ⟨_, rfl⟩

theorem Stores.touches (h : Stores P) (folder : String) : Touches P folder :=
  { h with ask := fun call _ => h.ask call, save := h.save folder }

namespace Upholds
variable (h : Upholds P sess)
include h

/-! ### Folders -/

section
open Hierarchy

theorem hierarchyCollect (left : Nat) (p : Progress) :
    P ⟨0, left, 2 * p.handshakes, 0⟩ locks _ (collect sess left p) := by
  -- Each round spends one of those left, and a handshake is never run again.
  induction left generalizing p with
  | zero => exact h.free_bind h.look fun _ => h.mono (h.throw id) (Tally.zero_le _)
  | succ left ih =>
    rw [collect_succ]
    have hturn : P ⟨0, 1, 0, 0⟩ locks _ (sess.turn (Hierarchy.exchange sess.settings · p.key)) :=
      h.turn (wire sess.settings p.key) (outcome (SyncKey.isInitial p.key))
        (show "FolderSync" ≠ "Provision" by decide) fun account => rfl
    refine h.free_bind h.look fun _ => h.bind (m := ⟨0, left, 2 * p.handshakes, 0⟩) hturn ?_ ?_
    · intro o
      have hleads := p.leads_next sess.mayProvision o
      generalize p.next sess.mayProvision o = next at hleads ⊢
      cases hleads with
      | @more round => exact ih (p.take round)
      | restart => exact ih { p with key := none, batch := .none, restarted := true }
      | done => exact h.mono (h.pure _) (Tally.zero_le _)
      | provision _ first _ =>
        refine h.handshake (looksFirst_hierarchyCollect sess left _) (ih _) ?_
        simp [Tally.le_iff, Progress.handshakes, first]
      | fail f => exact h.mono (h.throw (f.not_inProgress_toError _)) (Tally.zero_le _)
    · simp [Tally.le_iff, Nat.add_comm]

/-- A pass over the hierarchy needs its lock free. -/
theorem hierarchyPass (hfree : locks.acquire? Locks.hierarchy = some taken) :
    P (passTally sess) locks _ (pass sess) := by
  have hlock : .ofLock Locks.hierarchy + ⟨0, sess.maxRounds, 2, 0⟩ ≤ passTally sess := by
    simp [Tally.le_iff, Tally.ofLock, passTally]
  refine h.withLock hfree ?_ hlock
  refine h.free_bind (h.ask (.extra Mailbox.hierarchyKeyMark) rfl) fun stored => ?_
  refine h.bind_free (h.hierarchyCollect sess.maxRounds (.start stored)) fun collected => ?_
  obtain ⟨p, left⟩ := collected
  refine h.free_bind h.look fun _ => ?_
  refine h.free_bind (h.rewrite p.batch) fun difference => ?_
  split_ifs
  · exact h.free_bind (h.ask (.setExtra Mailbox.hierarchyKeyMark p.key) rfl) fun _ => h.pure _
  · exact h.pure _

theorem refresh (hr : Resumes P) : P (passTally sess) .free _ (refresh sess) := by
  have hpass : P (passTally sess) .free _ (do discard (pass sess); Pure.pure true) :=
    h.bind_free (h.discard (h.hierarchyPass (Locks.acquire?_free _))) fun _ => h.pure true
  refine h.recover hr hpass fun e he => ?_
  cases e with
  | accessDenied => exact h.throw id
  | authenticationFailed => exact h.throw id
  | cancelled => exact h.throw id
  | syncInProgress lock => exact he
  | _ => exact h.pure false

end

/-! ### Messages -/

section
open Collection

theorem collect (hfree : locks.acquire? Locks.hierarchy = some taken) (folder : String)
    (errand : Errand) (window : Window) (left : Nat) (p : Progress) :
    P (p.allowance sess left) locks _ (collect sess folder errand window left p) := by
  have ht := h.touches folder
  induction left generalizing p with
  | zero => exact h.free_bind h.look fun _ => h.mono (h.throw id) (Tally.zero_le _)
  | succ left ih =>
    rw [collect_succ]
    have hturn : P ⟨1, 0, 0, 0⟩ locks _
        (sess.turn (Collection.exchange sess.settings · (p.request errand folder window) p.key)) :=
      h.turn (wire sess.settings (p.request errand folder window) p.key) (outcome folder p.key)
        (show "Sync" ≠ "Provision" by decide) fun account => rfl
    refine h.free_bind h.look fun _ => h.bind (m := p.allowance sess left) hturn ?_ ?_
    · intro o
      have hleads := p.leads_next errand folder sess.mayProvision o
      generalize p.next errand folder sess.mayProvision o = next at hleads ⊢
      cases hleads with
      | more _ takes =>
        rw [← takes.allowance sess]
        exact ih _
      | done => exact h.mono (h.pure _) (Tally.zero_le _)
      | restart => exact ih { p.restart errand none with restarted := true }
      | refresh _ first =>
        have hpass := h.discard (h.hierarchyPass hfree)
        refine h.bind (m := ⟨left, 0, 2 * p.handshakes, 0⟩) hpass (fun _ => ?_) ?_
        · refine h.free_bind ht.requireFolder fun _ => ?_
          refine h.free_bind (h.ask (.folderExtra folder Mailbox.keyMark) rfl) fun stored => ?_
          exact ih { Progress.restart { p with refreshed := true } errand stored with stored }
        · simp [Tally.le_iff, Progress.allowance, Progress.refreshes, Hierarchy.passTally, first]
          omega
      | provision _ first _ =>
        refine h.handshake (looksFirst_collect sess folder errand window left _) (ih _) ?_
        simp [Tally.le_iff, Progress.allowance, Progress.handshakes, Progress.refreshes, first]
      | stalled => exact h.mono (h.throw id) (Tally.zero_le _)
      | fail f => exact h.mono (h.throw (f.not_inProgress_toError _)) (Tally.zero_le _)
    · simp [Tally.le_iff, Progress.allowance, Nat.add_comm]

theorem handles (folder : String) : Handles P sess folder where
  toTouches := h.touches folder
  pass errand hfree := by
    refine (h.touches folder).pass_of_collect fun window stored => ?_
    rw [← allowance_start sess errand stored]
    exact h.collect hfree folder errand window _ _

end
end Upholds

namespace Serves
variable (h : Serves P sess)
include h

theorem snapshot : P 0 locks _ sess.snapshot :=
  h.free_bind (h.ask (.extra Mailbox.policyKeyMark) rfl) fun _ => h.pure _

theorem upholds : Upholds P sess where
  toStores := h.toStores
  turn request g hrequest hex := by
    refine h.free_bind h.snapshot fun account => ?_
    rw [hex account]
    exact h.bind_free (h.post account request g hrequest) fun _ =>
      h.free_bind h.look fun _ => h.pure _
  handshake _ hop hk := h.bind h.provision (fun _ => hop) hk

/-! ### Exchanges without a key -/

theorem exchange {α : Type} {op : Account → Program (Except Failure α)}
    (hop : ∀ account, P 0 locks _ (ofProgram (op account))) :
    P ⟨0, 0, 2, 0⟩ locks _ (sess.exchange op) := by
  have hone : P 0 locks _ (sess.snapshot >>= fun account => ofProgram (op account)) :=
    h.free_bind h.snapshot hop
  obtain ⟨rest, hex, hok, herror⟩ : ∃ rest : Except Failure α → Operation (Except Failure α),
      sess.exchange op = (sess.snapshot >>= fun account => ofProgram (op account)) >>= rest ∧
      (∀ a, rest (.ok a) = Pure.pure (.ok a)) ∧
      ∀ f, rest (.error f) =
        if f.verdict = .provisioningRequired ∧ sess.mayProvision then
          sess.provision >>= fun _ => sess.snapshot >>= fun account => ofProgram (op account)
        else Pure.pure (.error f) :=
    ⟨_, (bind_assoc ..).symm, fun _ => rfl, fun _ => rfl⟩
  rw [hex]
  refine h.free_bind hone fun result => ?_
  cases result with
  | ok a =>
    rw [hok]
    exact h.mono (h.pure _) (Tally.zero_le _)
  | error f =>
    rw [herror]
    split_ifs
    · exact h.bind_free h.provision fun _ => hone
    · exact h.mono (h.pure _) (Tally.zero_le _)

theorem moveMessages (source target : String) (ids : List String) :
    P ⟨0, 0, 2, 0⟩ .free _ (Relocation.moveMessages sess source target ids) := by
  unfold Relocation.moveMessages
  split_ifs
  · exact h.mono (h.throw not_false) (Tally.zero_le _)
  · exact h.mono (h.pure _) (Tally.zero_le _)
  refine h.free_bind (h.touches source).requireFolder fun _ => ?_
  refine h.free_bind (h.touches target).requireFolder fun _ => h.lockFolder fun _ => ?_
  refine h.bind_free (h.exchange fun account => ?_) fun result => ?_
  · exact h.post account (Exchange.request "MoveItems" _ sess.settings.commandTimeout) (fun r => _)
      (show "MoveItems" ≠ "Provision" by decide)
  · cases result with
    | ok responses =>
      refine h.free_bind (h.free_bind (h.forM fun _ => h.copy ..) fun _ => ?_) fun _ => h.pure _
      split_ifs
      · exact h.pure ()
      · exact h.ask (.destroyMessages source _) rfl
    | error f =>
      simp only
      split
      · exact h.pure _
      · exact h.throw (f.not_inProgress_toError _)

theorem send (mime : Bytes) : P ⟨0, 0, 2, 0⟩ .free _ (Submission.send sess mime) := by
  have hcommand : Submission.command ≠ "Provision" := by decide
  refine h.bind_free (h.exchange fun account => ?_) fun result => ?_
  · unfold Submission.exchange
    split_ifs
    · refine h.free_bind h.freshId fun clientId => ?_
      exact h.post account (Exchange.request Submission.command _ sess.settings.commandTimeout)
        (fun r => _) hcommand
    · exact h.post account (Submission.bareRequest sess.settings mime true) (fun r => _) hcommand
  · cases result with
    | ok _ => exact h.pure ()
    | error f => exact h.throw (f.not_inProgress_toError _)

theorem check : P ⟨0, 1, 0, 0⟩ locks _ (ServerCheck.check sess) := by
  have hjudge (host : String) (o : Except Failure (Round Hierarchy.Batch)) (e : SyncError)
      (he : ServerCheck.judge host o = .error e) : ¬e.InProgress := by
    cases o with
    | ok round => cases he
    | error f =>
      simp only [ServerCheck.judge] at he
      split at he
      · cases he
      · exact Except.error.inj he ▸ id
      · exact Except.error.inj he ▸ f.not_inProgress_toError _
  refine h.free_bind h.snapshot fun account => ?_
  refine h.bind_free (h.post account (Hierarchy.wire sess.settings none)
    (Hierarchy.outcome true) (show "FolderSync" ≠ "Provision" by decide)) fun o => ?_
  cases hj : ServerCheck.judge account.server.host o with
  | ok a => exact h.pure a
  | error e => exact h.throw (hjudge _ _ e hj)

end Serves

/-! ### What a client offers -/

namespace Withstands
variable (h : Withstands P sess)
include h

theorem storeWindow (folder : String) (w : Window) : P 0 locks _ (Mailbox.setWindow folder w) := by
  refine h.recover h.toResumes
    (h.ask (.setFolderExtra folder Mailbox.windowMark (some (toString w.code.toNat))) rfl)
    fun e he => ?_
  cases e with
  | storage cause => exact h.throw not_false
  | _ => exact he

theorem widen (folder : String) : P 0 locks _ (Collection.widen folder) := by
  refine h.free_bind (h.touches folder).windowOf fun w => ?_
  cases w.next? with
  | none => exact h.pure _
  | some w =>
    refine h.free_bind (h.storeWindow folder w) fun _ => ?_
    split_ifs
    · exact h.free_bind (h.ask (.setFolderExtra folder Mailbox.olderMark _) rfl) fun _ => h.pure _
    · exact h.pure _

/-- Such a property holds of all that a client offers, begun with no lock held. -/
theorem offers {α : Type} {op : Operation α} (hop : Client.Offers sess α op) :
    ∃ n, P n .free α op := by
  have hu := h.upholds
  cases hop with
  | refreshFolders => exact ⟨_, hu.refresh h.toResumes⟩
  | sync folder => exact ⟨_, (hu.handles folder).sync h.toResumes⟩
  | download folder id => exact ⟨_, (hu.handles folder).download id⟩
  | setFlag folder ids flag state => exact ⟨_, (hu.handles folder).setFlag ids flag state⟩
  | deleteMessages folder ids => exact ⟨_, (hu.handles folder).deleteMessages ids⟩
  | moveMessages source target ids => exact ⟨_, h.moveMessages source target ids⟩
  | send mime => exact ⟨_, h.send mime⟩
  | checkServer => exact ⟨_, h.check⟩
  | window folder => exact ⟨_, (h.touches folder).windowOf⟩
  | setWindow folder w =>
    exact ⟨_, h.free_bind (h.touches folder).requireFolder fun _ => h.storeWindow folder w⟩
  | widenWindow folder => exact ⟨_, h.widen folder⟩

end Withstands
end Operation
end MailSync
