import MailSync.Proofs.Cancelling
import MailSync.Proofs.Composition

/-!
# Work on one folder

What works on the messages of one folder leaves the rest of the mailbox alone, however it ends. The
server can undo this in two ways only: it tells of a change in the hierarchy, which brings a pass
over that, or it orders a wipe. As long as it does neither, every call is about the folder.
-/
namespace MailSync
open Mailbox (Call Memory)
open DevicePolicy (OrdersWipe)

variable {σ α β : Type}

namespace Program

/-- As long as the answers are of a kind, every effect of the program is allowed. -/
def OnlyWhile (P : Asked → Prop) (A : Effect → Prop) : Program α → Prop
  | done _ => True
  | step e next => A e ∧ ∀ answer, P ⟨e, answer⟩ → (next answer).OnlyWhile P A

namespace OnlyWhile
variable {P : Asked → Prop} {A : Effect → Prop} {p : Program α}

theorem of_only (h : p.Only A) : p.OnlyWhile P A := by
  induction p with
  | done a => trivial
  | step e next ih => exact ⟨h.1, fun answer _ => ih answer (h.2 answer)⟩

theorem bind {f : α → Program β} (h : p.OnlyWhile P A) (hf : ∀ a, (f a).OnlyWhile P A) :
    (p >>= f).OnlyWhile P A := by
  induction p with
  | done a => exact hf a
  | step e next ih => exact ⟨h.1, fun answer ha => ih answer (h.2 answer ha)⟩

/-- A relation that is kept by allowed effects is kept by a run with answers of the kind. -/
theorem run [Mailbox.Medium σ] {s : Surroundings σ} {R : World σ → World σ → Prop}
    (refl : ∀ w, R w w) (trans : ∀ w v u, R w v → R v u → R w u)
    (hR : ∀ e, A e → ∀ w, R w (e.perform s w).2) (h : p.OnlyWhile P A) {w : World σ}
    (ht : ∀ x ∈ p.trace s w, P x) : R w (p.run s w).2 := by
  induction p generalizing w with
  | done a => exact refl w
  | step e next ih =>
    obtain ⟨hanswer, ht⟩ := List.forall_mem_cons.mp ht
    exact trans _ _ _ (hR e h.1 w) (ih (e.perform s w).1 (h.2 _ hanswer) ht)

end OnlyWhile
end Program

namespace Operation

/-- As long as the answers are of a kind, every effect of the operation is allowed. -/
def OnlyWhile (P : Asked → Prop) (A : Effect → Prop) (op : Operation α) : Prop :=
  Program.OnlyWhile P A op.run

namespace OnlyWhile
variable {P : Asked → Prop} {A : Effect → Prop} {op : Operation α}

theorem of_only (h : Only A op) : OnlyWhile P A op := Program.OnlyWhile.of_only h

theorem bind {f : α → Operation β} (h : OnlyWhile P A op) (hf : ∀ a, OnlyWhile P A (f a)) :
    OnlyWhile P A (op >>= f) := by
  refine Program.OnlyWhile.bind h fun r => ?_
  cases r with
  | ok a => exact hf a
  | error e => trivial

theorem attempt (h : OnlyWhile P A op) : OnlyWhile P A (ofProgram op.run) :=
  Program.OnlyWhile.bind h fun _ => trivial

theorem withLock {lock : String} (ha : A (.acquire lock)) (hr : A (.release lock))
    (h : OnlyWhile P A op) : OnlyWhile P A (withLock lock op) := by
  refine Program.OnlyWhile.bind (p := Program.effect (.acquire lock)) ⟨ha, fun _ _ => trivial⟩ ?_
  intro taken
  cases taken with
  | false => trivial
  | true =>
    refine Program.OnlyWhile.bind h fun r => ?_
    exact Program.OnlyWhile.bind (p := Program.effect (.release lock)) ⟨hr, fun _ _ => trivial⟩
      fun _ => trivial

/-- What follows a request may count on the kind of its reply. -/
theorem post_bind {γ : Type} {account : Account} (request : Request)
    {g : Except TransportError Reply → γ} {f : γ → Operation β} (hA : A (.post account request))
    (hf : ∀ reply, P ⟨.post account request, reply⟩ → OnlyWhile P A (f (g reply))) :
    OnlyWhile P A
      (ofProgram (Program.effect (.post account request) >>= fun r => Pure.pure (g r)) >>= f) :=
  ⟨hA, hf⟩

theorem turn_bind {ε : Type} {sess : Session} {exchange : Account → Program ε}
    (request : Request) {g : Except TransportError Reply → ε} {f : ε → Operation β}
    (hex : ∀ account, exchange account =
      Program.effect (.post account request) >>= fun r => Pure.pure (g r))
    (hpost : ∀ account, A (.post account request)) (hask : ∀ key, A (.ask (.extra key)))
    (hlook : A .checkCancelled)
    (hf : ∀ account reply, P ⟨.post account request, reply⟩ → OnlyWhile P A (f (g reply))) :
    OnlyWhile P A (sess.turn exchange >>= f) := by
  rw [Session.turn_bind]
  refine bind (.of_only (sess.only_snapshot hask)) fun account => ?_
  rw [hex account]
  refine post_bind request (hpost account) fun reply hreply => ?_
  exact bind (.of_only (.checkCancelled hlook)) fun _ => hf account reply hreply

end OnlyWhile
end Operation
open Operation (Only OnlyWhile)

/-- An effect that touches one folder of the mailbox at most. -/
def Effect.Within (folder : String) : Effect → Prop
  | ask call => call.Within folder
  | _ => True

theorem Effect.Within.beside {s : Surroundings Memory} (hs : s.Solitary) {folder : String}
    {e : Effect} (h : e.Within folder) (w : World Memory) :
    w.mailbox.Beside folder (e.perform s w).2.mailbox := by
  rw [(e.perform_does hs w).1]
  refine .after (fun call hc => ?_) w.mailbox
  cases e with
  | ask c => exact (Effect.mem_writes hc).1 ▸ h
  | _ => cases hc

namespace Collection

/-- Whether a reply tells of a change in the hierarchy. -/
def TellsOfChange (folder : String) (reply : Except TransportError Reply) : Prop :=
  ∃ f, outcome folder none reply = .error f ∧ f.verdict = .hierarchyChanged

/-- What the server has to keep from saying. -/
def Calm (folder : String) : Asked → Prop
  | ⟨.post _ request, reply⟩ =>
    (request.command = "Sync" → ¬TellsOfChange folder reply) ∧
      (request.command = "Provision" → ¬OrdersWipe reply)
  | _ => True

theorem calm_of_repliesTo {folder : String} {t : List Asked}
    (hsync : ∀ reply ∈ repliesTo "Sync" t, ¬TellsOfChange folder reply)
    (hprovision : ∀ reply ∈ repliesTo "Provision" t, ¬OrdersWipe reply) :
    ∀ x ∈ t, Calm folder x := by
  rintro ⟨e, answer⟩ hx
  cases e with
  | post account request =>
    have hmem {command : String} (h : request.command = command) :
        answer ∈ repliesTo command t :=
      List.mem_filterMap.mpr ⟨_, hx, if_pos h⟩
    exact ⟨fun h => hsync answer (hmem h), fun h => hprovision answer (hmem h)⟩
  | _ => trivial

end Collection
open Collection (Calm TellsOfChange)

/-- The operation touches one folder at most, while the server keeps calm. -/
def Operation.Confined (folder : String) (op : Operation α) : Prop :=
  OnlyWhile (Calm folder) (Effect.Within folder) op

namespace Operation
variable {folder : String} {op : Operation α}

theorem Confined.of_only (h : Only (Effect.Within folder) op) : op.Confined folder :=
  OnlyWhile.of_only h

theorem composes_confined (folder : String) : Composes (.of fun _ op => op.Confined folder) where
  pure _ := .of_only (.pure _)
  throw _ := .of_only (.throw _)
  bind h hf _ := OnlyWhile.bind h hf
  withLock _ h _ := OnlyWhile.withLock trivial trivial h
  look := .of_only (.checkCancelled trivial)
  tell _ := .of_only (.ofProgram ⟨trivial, fun _ => trivial⟩)

theorem touches_confined (folder : String) :
    Touches (.of fun _ op => op.Confined folder) folder where
  toComposes := composes_confined folder
  ask _ hcall _ := .of_only (.ask hcall)
  save _ := .of_only (.ask rfl)

theorem resumes_confined (folder : String) : Resumes (.of fun _ op => op.Confined folder) where
  attempt h hok herror _ := by
    refine OnlyWhile.bind (OnlyWhile.attempt h) fun r => ?_
    cases r with
    | ok a => exact hok a
    | error e => exact herror e (.of_only (.throw e))

end Operation
open Operation (Property composes_confined touches_confined)

/-- A calm server orders no wipe, and then the handshake is not about a folder. -/
theorem Session.confined_provision (sess : Session) (folder : String) :
    sess.provision.Confined folder := by
  suffices Property.of (fun _ op => op.Confined folder) ⟨0, 0, 2, 0⟩ .free _ sess.provision
    from this
  refine (composes_confined folder).provision (fun account root => ?_) fun key =>
    .of_only (Only.ask (show Effect.Within folder (.ask (.setExtra _ key)) from rfl))
  refine OnlyWhile.post_bind (Exchange.request "Provision" root sess.settings.commandTimeout)
    (g := DevicePolicy.outcome) trivial fun reply hreply => ?_
  cases ho : DevicePolicy.outcome reply with
  | error f => exact .of_only (.throw _)
  | ok r =>
    have hspared : ¬r.remoteWipe = true := fun hw => hreply.2 rfl ⟨r, ho, hw⟩
    refine .bind ?_ fun _ => .of_only (.pure r)
    unfold DevicePolicy.obey
    rw [if_neg hspared]
    split_ifs
    · exact .of_only (.throw _)
    · exact .of_only (.pure ())

namespace Collection

theorem confined_collect (sess : Session) (folder : String) (errand : Errand) (window : Window)
    (left : Nat) (p : Progress) : (collect sess folder errand window left p).Confined folder := by
  have hlook : Operation.checkCancelled.Confined folder := .of_only (.checkCancelled trivial)
  -- On the rounds that are left. The branch for a change in the hierarchy is never taken.
  induction left generalizing p with
  | zero => exact OnlyWhile.bind hlook fun _ => .of_only (.throw _)
  | succ left ih =>
    rw [collect_succ]
    refine OnlyWhile.bind hlook fun _ => OnlyWhile.turn_bind
      (wire sess.settings (p.request errand folder window) p.key)
      (g := outcome folder p.key) (fun _ => rfl) (fun _ => trivial) (fun _ => trivial) trivial ?_
    intro account reply hreply
    have hleads := p.leads_next errand folder sess.mayProvision (outcome folder p.key reply)
    cases hn : p.next errand folder sess.mayProvision (outcome folder p.key reply) with
    | again q => exact ih q
    | finish q => exact .of_only (.pure _)
    | refresh q =>
      generalize ho : outcome folder p.key reply = o at hleads hn
      rw [hn] at hleads
      cases hleads with
      | refresh hv _ =>
        refine absurd ?_ (hreply.1 rfl)
        exact (outcome_verdict_iff folder p.key none (v := .hierarchyChanged) nofun nofun).mp
          ⟨_, ho, hv⟩
    | provision q => exact OnlyWhile.bind (sess.confined_provision folder) fun _ => ih q
    | fail e => exact .of_only (.throw e)

end Collection

theorem Operation.handles_confined (sess : Session) (folder : String) :
    Handles (.of fun _ op => op.Confined folder) sess folder where
  toTouches := touches_confined folder
  pass errand _ := (touches_confined folder).pass_of_collect fun window stored =>
    Collection.confined_collect sess folder errand window sess.maxRounds (.start errand stored)

namespace Client

/-- The operations on the messages of one folder. -/
inductive WorksOn (sess : Session) (folder : String) : (α : Type) → Operation α → Prop
  | sync : WorksOn sess folder _ (sync sess folder)
  | download (id : String) : WorksOn sess folder _ (download sess folder id)
  | setFlag (ids : List String) (flag : Flag) (state : Bool) :
      WorksOn sess folder _ (setFlag sess folder ids flag state)
  | deleteMessages (ids : List String) :
      WorksOn sess folder _ (deleteMessages sess folder ids)

theorem WorksOn.confined {sess : Session} {folder : String} {op : Operation α}
    (h : WorksOn sess folder α op) : op.Confined folder := by
  have hhandles := Operation.handles_confined sess folder
  cases h with
  | sync => exact hhandles.sync (Operation.resumes_confined folder)
  | download id => exact hhandles.download id
  | setFlag ids flag state => exact hhandles.setFlag ids flag state
  | deleteMessages ids => exact hhandles.deleteMessages ids

end Client

/-- Unless the server tells of a change in the hierarchy or orders a wipe, what works on one folder
leaves all others as they were, and of its own folder and the account it changes nothing but the
messages, the key and the policy key, however it ends. -/
theorem work_is_confined {s : Surroundings Memory} (hs : s.Solitary) {sess : Session}
    {folder : String} {op : Operation α} (hop : Client.WorksOn sess folder α op)
    (w : World Memory)
    (hsync : ∀ reply ∈ repliesTo "Sync" (op.trace s w), ¬TellsOfChange folder reply)
    (hprovision : ∀ reply ∈ repliesTo "Provision" (op.trace s w), ¬OrdersWipe reply) :
    w.mailbox.Beside folder (op.runIn s w).2.mailbox :=
  Program.OnlyWhile.run (R := fun w v => w.mailbox.Beside folder v.mailbox)
    (fun w => .refl folder w.mailbox) (fun _ _ _ => .trans) (fun _ he w => he.beside hs w)
    hop.confined (Collection.calm_of_repliesTo hsync hprovision)

/-- A mailbox with a message in a second folder, under an id that will come for the first. -/
def twoFolders : World Memory :=
  .start ((World.inbox.mailbox.create ⟨"10", "Old", .regular, none⟩).after
    [.saveMessage "10" (.blank "5:1") .complete])

/-- A server that demands the handshake and then brings a message. -/
def delivering : Script Memory where
  replies := [.ok ⟨449, []⟩, .ok ⟨200, (DevicePolicy.responseDocument 1 (some "t")).encode⟩,
    .ok ⟨200, (DevicePolicy.responseDocument 1 (some "f")).encode⟩,
    Collection.Response.reply ⟨1, some "1", false, [], []⟩ "5",
    Collection.Response.reply
      ⟨1, some "2", false, [.add { Message.blank "5:1" with mime := some [98] }], []⟩ "5"]
  meanwhile := []
  id := ""

theorem delivering_solitary : delivering.surroundings.Solitary :=
  Script.solitary_surroundings fun _ h => nomatch h

/-- The message is there, and the one of the same id elsewhere is left alone. -/
theorem delivering_is_confined :
    delivering.surroundings.Solitary ∧
    (((Client.sync .sample "5").runIn delivering.surroundings twoFolders).2.mailbox.message?
      "5" "5:1").map (·.message.mime) = some (some [98]) ∧
    twoFolders.mailbox.Beside "5"
      ((Client.sync .sample "5").runIn delivering.surroundings twoFolders).2.mailbox := by
  have hsyncs :
      repliesTo "Sync" ((Client.sync .sample "5").trace delivering.surroundings twoFolders) =
      [.ok ⟨449, []⟩, Collection.Response.reply ⟨1, some "1", false, [], []⟩ "5",
        Collection.Response.reply
          ⟨1, some "2", false, [.add { Message.blank "5:1" with mime := some [98] }], []⟩ "5"] :=
    rfl
  have hprovisions :
      repliesTo "Provision" ((Client.sync .sample "5").trace delivering.surroundings twoFolders) =
        [.ok ⟨200, (DevicePolicy.responseDocument 1 (some "t")).encode⟩,
          .ok ⟨200, (DevicePolicy.responseDocument 1 (some "f")).encode⟩] := rfl
  refine ⟨delivering_solitary, rfl, work_is_confined delivering_solitary .sync twoFolders ?_ ?_⟩
  · rw [hsyncs]
    simp only [List.forall_mem_cons]
    refine ⟨?_, ?_, ?_, List.forall_mem_nil _⟩
    · rintro ⟨f, hf, hv⟩
      obtain rfl := Except.error.inj hf
      cases hv
    · exact fun ⟨f, hf, _⟩ => nomatch hf
    · exact fun ⟨f, hf, _⟩ => nomatch hf
  · rw [hprovisions]
    simp only [List.forall_mem_cons]
    refine ⟨?_, ?_, List.forall_mem_nil _⟩
    · rintro ⟨r, hr, hw⟩
      obtain rfl := Except.ok.inj hr
      cases hw
    · rintro ⟨r, hr, hw⟩
      obtain rfl := Except.ok.inj hr
      cases hw

end MailSync
