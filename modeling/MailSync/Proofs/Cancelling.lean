import MailSync.Proofs.Effects

/-!
# Cancelling a program

What a program can still do once the user has cancelled, and the programs that give up as soon as
the reply to the request in flight is there. The policy handshake is an exception: it does not look
whether the user has cancelled before it is through.
-/
namespace MailSync
open Mailbox (Call Memory policyKeyMark)

variable {α β : Type}

/-- What may still be done: so many requests, and writes of some kinds. -/
structure Leeway where
  requests : Nat
  writes : Call → Prop

namespace Leeway

def none : Leeway := ⟨0, fun _ => False⟩

/-- One more leg, and what a handshake may write. -/
def handshake : Leeway := ⟨1, fun call => call = .wipe ∨ ∃ key, call = .setExtra policyKeyMark key⟩

/-- What may still be done if the user cancels while a request is in flight. -/
def after (request : Request) : Leeway :=
  if request.command = "Provision" then handshake else none

end Leeway

/-- The request that an effect sends. -/
def Effect.posts : Effect → List (Account × Request)
  | post account request => [(account, request)]
  | _ => []

def Effect.SendsNothing (e : Effect) : Prop := e.posts = []

/-- The write that an effect asks for. -/
def Effect.writes : Effect → List Call
  | ask call => if call.isWrite then [call] else []
  | _ => []

theorem Effect.mem_writes {call c : Call} (h : c ∈ (ask call).writes) :
    c = call ∧ call.isWrite = true := by
  simp only [writes] at h
  split_ifs at h with hw
  · exact ⟨List.mem_singleton.mp h, hw⟩
  · cases h

/-- The answers that an effect can have once the user has cancelled. -/
def Effect.Late : (e : Effect) → e.Answer → Prop
  | checkCancelled, cancelled => cancelled = true
  | _, _ => True

namespace Program

/-- Once the user has cancelled, a program only posts so many requests, all of the handshake, only
makes some writes, and then ends with some values. -/
def Winds (W : Call → Prop) (Q : α → Prop) : Program α → Nat → Prop
  | done a, _ => Q a
  | step e next, left =>
    (∀ call ∈ e.writes, W call) ∧ (∀ x ∈ e.posts, x.2.command = "Provision") ∧
      ∃ rest, left = e.posts.length + rest ∧
        ∀ answer, e.Late answer → (next answer).Winds W Q rest

/-- After each request the program does no more than it may, if the user cancels meanwhile. -/
def Heeds (Q : α → Prop) : Program α → Prop
  | done _ => True
  | step e next => (∀ account request, e = .post account request → ∀ answer,
      (next answer).Winds (Leeway.after request).writes Q (Leeway.after request).requests) ∧
    ∀ answer, (next answer).Heeds Q

section
variable {W : Call → Prop} {Q R : α → Prop} {p : Program α} {left : Nat}

theorem Winds.mono {W' : Call → Prop} (h : p.Winds W R left) (hW : ∀ call, W call → W' call)
    (hQ : ∀ a, R a → Q a) {more : Nat} (hleft : left ≤ more) : p.Winds W' Q more := by
  induction p generalizing left more with
  | done a => exact hQ a h
  | step e next ih =>
    obtain ⟨hwrites, hposts, rest, rfl, hn⟩ := h
    refine ⟨fun call hc => hW call (hwrites call hc), hposts, more - e.posts.length, by omega, ?_⟩
    exact fun answer ha => ih answer (hn answer ha) (by omega)

theorem Winds.bind {Q : β → Prop} {f : α → Program β} {more : Nat} (h : p.Winds W R left)
    (hf : ∀ a, R a → (f a).Winds W Q more) : (p >>= f).Winds W Q (left + more) := by
  induction p generalizing left with
  | done a => exact (hf a h).mono (fun _ hW => hW) (fun _ hQ => hQ) (Nat.le_add_left ..)
  | step e next ih =>
    obtain ⟨hwrites, hposts, rest, rfl, hn⟩ := h
    exact ⟨hwrites, hposts, rest + more, Nat.add_assoc ..,
      fun answer ha => ih answer (hn answer ha)⟩

/-- An effect that neither posts nor writes. -/
theorem Winds.idle {e : Effect} {next : e.Answer → Program α} (hwrites : e.writes = [])
    (hposts : e.posts = []) (hn : ∀ answer, e.Late answer → (next answer).Winds W Q left) :
    (Program.step e next).Winds W Q left := by
  refine ⟨?_, ?_, left, ?_, hn⟩
  · rw [hwrites]; exact List.forall_mem_nil _
  · rw [hposts]; exact List.forall_mem_nil _
  · rw [hposts, List.length_nil, Nat.zero_add]

theorem Winds.ask {call : Call} {next : (Effect.ask call).Answer → Program α}
    (hW : call.isWrite = true → W call) (hn : ∀ answer, (next answer).Winds W Q left) :
    (Program.step (.ask call) next).Winds W Q left := by
  refine ⟨fun c hc => ?_, List.forall_mem_nil _, left, (Nat.zero_add left).symm, fun a _ => hn a⟩
  obtain ⟨rfl, hwrite⟩ := Effect.mem_writes hc
  exact hW hwrite

theorem Winds.post {account : Account} {request : Request}
    {next : Except TransportError Reply → Program α} (hrequest : request.command = "Provision")
    (hn : ∀ result, (next result).Winds W Q left) :
    (Program.step (.post account request) next).Winds W Q (left + 1) := by
  refine ⟨List.forall_mem_nil _, fun x hx => ?_, left, Nat.add_comm .., fun a _ => hn a⟩
  rw [List.mem_singleton.mp hx]
  exact hrequest

theorem Heeds.bind {Q : β → Prop} {f : α → Program β} (h : p.Heeds R)
    (hR : ∀ a, R a → (f a).Winds Leeway.none.writes Q 0) (hf : ∀ a, (f a).Heeds Q) :
    (p >>= f).Heeds Q := by
  induction p with
  | done a => exact hf a
  | step e next ih =>
    refine ⟨fun account request he answer => ?_, fun answer => ih answer (h.2 answer)⟩
    change Winds _ Q (next answer >>= f) (_ + 0)
    refine (h.1 account request he answer).bind fun a ha => ?_
    exact (hR a ha).mono (fun _ hW => hW.elim) (fun _ hQ => hQ) (Nat.le_refl 0)

/-- What posts nothing has nothing to heed. -/
theorem Heeds.of_only (h : p.Only Effect.SendsNothing) : p.Heeds Q := by
  induction p with
  | done a => trivial
  | step e next ih =>
    refine ⟨fun account request he => ?_, fun answer => ih answer (h.2 answer)⟩
    have hposts := h.1
    rw [he] at hposts
    cases hposts

end

/-- The requests of a run, each with the world while it is in flight. -/
def flights (s : Surroundings Memory) : Program α → World Memory → List (Request × World Memory)
  | done _, _ => []
  | step e next, w =>
    (match e with
      | .post account request => [(request, w.record (.sent account request))]
      | _ => []) ++ (next (e.perform s w).1).flights s (e.perform s w).2

end Program

/-- Once the user has cancelled it stays like that. -/
def Surroundings.Resolute {σ : Type} (s : Surroundings σ) : Prop :=
  ∀ w, w.cancelled = true → (s.inFlight w).cancelled = true

namespace Effect

variable {s : Surroundings Memory}

/-- What one effect does to the mailbox and sends. -/
theorem perform_does (hs : s.Solitary) (e : Effect) (w : World Memory) :
    (e.perform s w).2.mailbox = w.mailbox.after e.writes ∧
      (e.perform s w).2.requests = w.requests ++ e.posts := by
  have hnone {v : World Memory} (hv : v.history = w.history) : v.requests = w.requests ++ [] := by
    rw [World.requests, hv, List.append_nil, World.requests]
  cases e with
  | post account request =>
    obtain ⟨r, c, hr⟩ := Effect.perform_post hs account request w
    rw [hr]
    exact ⟨rfl, List.filterMap_append⟩
  | ask call =>
    cases hw : call.isWrite with
    | false =>
      rw [perform_ask_read hw, writes, hw]
      exact ⟨rfl, hnone rfl⟩
    | true =>
      rw [perform_ask_write hw, writes, hw]
      exact ⟨rfl, List.filterMap_append⟩
  | checkCancelled => exact ⟨rfl, hnone rfl⟩
  | acquire lock =>
    simp only [perform]
    cases w.locks.acquire? lock <;> exact ⟨rfl, hnone rfl⟩
  | release lock => exact ⟨rfl, hnone rfl⟩
  | tell notice => exact ⟨rfl, List.filterMap_append⟩
  | freshId => exact ⟨rfl, hnone rfl⟩

theorem late_perform (s : Surroundings Memory) (e : Effect) {w : World Memory}
    (hw : w.cancelled = true) : e.Late (e.perform s w).1 := by
  cases e with
  | checkCancelled => simp only [Late, perform, hw, Bool.true_or]
  | _ => trivial

theorem cancelled_perform (hr : s.Resolute) (e : Effect) {w : World Memory}
    (hw : w.cancelled = true) : (e.perform s w).2.cancelled = true := by
  cases e with
  | post account request => exact hr (w.record (.sent account request)) hw
  | ask call =>
    simp only [perform]
    split_ifs <;> exact hw
  | checkCancelled => simp only [perform, hw, Bool.true_or]
  | acquire lock =>
    simp only [perform]
    cases w.locks.acquire? lock <;> exact hw
  | _ => exact hw

end Effect

/-- From one world to a later one no more was done than may be. -/
structure World.Within (leeway : Leeway) (w v : World Memory) : Prop where
  mailbox : ∃ calls, (∀ call ∈ calls, leeway.writes call) ∧ v.mailbox = w.mailbox.after calls
  requests : ∃ more, v.requests = w.requests ++ more ∧ more.length ≤ leeway.requests ∧
    ∀ x ∈ more, x.2.command = "Provision"

theorem World.Within.of_perform {s : Surroundings Memory} (hs : s.Solitary) {W : Call → Prop}
    {e : Effect} {w u : World Memory} {rest : Nat} (hW : ∀ call ∈ e.writes, W call)
    (hposts : ∀ x ∈ e.posts, x.2.command = "Provision")
    (h : World.Within ⟨rest, W⟩ (e.perform s w).2 u) :
    World.Within ⟨e.posts.length + rest, W⟩ w u := by
  obtain ⟨hmailbox, hrequests⟩ := e.perform_does hs w
  obtain ⟨⟨calls, hcalls, hu⟩, more, hmore, hlength, hprovision⟩ := h
  refine ⟨⟨e.writes ++ calls, fun call hc => ?_, ?_⟩, e.posts ++ more, ?_, ?_, fun x hx => ?_⟩
  · rcases List.mem_append.mp hc with hc | hc
    · exact hW call hc
    · exact hcalls call hc
  · rw [hu, hmailbox, Memory.after, Memory.after, Memory.after, List.foldl_append]
  · rw [hmore, hrequests, List.append_assoc]
  · rw [List.length_append]
    exact Nat.add_le_add_left hlength _
  · rcases List.mem_append.mp hx with hx | hx
    · exact hposts x hx
    · exact hprovision x hx

namespace Program
variable {s : Surroundings Memory} {Q : α → Prop} {p : Program α}

theorem Winds.run (hs : s.Solitary) (hr : s.Resolute) {W : Call → Prop} {left : Nat}
    (h : p.Winds W Q left) {w : World Memory} (hw : w.cancelled = true) :
    Q (p.run s w).1 ∧ w.Within ⟨left, W⟩ (p.run s w).2 := by
  induction p generalizing left w with
  | done a =>
    exact ⟨h, ⟨[], List.forall_mem_nil _, rfl⟩, [], (List.append_nil _).symm, Nat.zero_le _,
      List.forall_mem_nil _⟩
  | step e next ih =>
    obtain ⟨hwrites, hposts, rest, rfl, hnext⟩ := h
    obtain ⟨hQ, hwithin⟩ := ih _ (hnext _ (e.late_perform s hw)) (e.cancelled_perform hr hw)
    exact ⟨hQ, hwithin.of_perform hs hwrites hposts⟩

/-- A run in which the user cancels while a request is in flight. -/
theorem Heeds.run (hs : s.Solitary) (hr : s.Resolute) (h : p.Heeds Q) {w v : World Memory}
    {request : Request} (hv : (request, v) ∈ p.flights s w)
    (hc : (s.inFlight v).cancelled = true) :
    Q (p.run s w).1 ∧ v.Within (Leeway.after request) (p.run s w).2 := by
  induction p generalizing w with
  | done a => cases hv
  | step e next ih =>
    rcases List.mem_append.mp hv with hv | hv
    · cases e with
      | post account request' =>
        obtain ⟨rfl, rfl⟩ := Prod.mk.inj (List.mem_singleton.mp hv)
        obtain ⟨hmailbox, hrequests⟩ := (Effect.post account request).perform_does hs w
        have hwinds := h.1 account request rfl ((Effect.post account request).perform s w).1
        have hcancelled : ((Effect.post account request).perform s w).2.cancelled = true := hc
        obtain ⟨hQ, ⟨calls, hcalls, hm⟩, more, hmore, hlast⟩ := hwinds.run hs hr hcancelled
        refine ⟨hQ, ⟨calls, hcalls, hm.trans ?_⟩, more, hmore.trans ?_, hlast⟩
        · exact congrArg (·.after calls) hmailbox
        · have hv : (w.record (.sent account request)).requests =
              w.requests ++ [(account, request)] := List.filterMap_append
          rw [hrequests, hv]
          rfl
      | _ => cases hv
    · exact ih _ (h.2 _) hv

/-- The flights of a run are all its requests. -/
theorem requests_run (hs : s.Solitary) (p : Program α) (w : World Memory) :
    (p.run s w).2.requests.map (·.2) = w.requests.map (·.2) ++ (p.flights s w).map (·.1) := by
  induction p generalizing w with
  | done a => exact (List.append_nil _).symm
  | step e next ih =>
    have hflights : ((step e next).flights s w).map (·.1) = e.posts.map (·.2) ++
        ((next (e.perform s w).1).flights s (e.perform s w).2).map (·.1) := by
      cases e <;> rfl
    rw [run_step, ih, (e.perform_does hs w).2, hflights, List.map_append, List.append_assoc]

end Program

theorem Script.resolute_surroundings {σ : Type} {s : Script σ}
    (h : ∀ entry ∈ s.meanwhile, ∀ w : World σ, w.cancelled = true → (entry.2 w).cancelled = true) :
    s.surroundings.Resolute := by
  intro w hw
  simp only [Script.surroundings]
  have hl : ∀ entry ∈ s.meanwhile.filter (·.1 = w.requests.length), entry ∈ s.meanwhile :=
    fun _ he => (List.mem_filter.mp he).1
  generalize s.meanwhile.filter (·.1 = w.requests.length) = l at hl
  induction l generalizing w with
  | nil => exact hw
  | cons entry l ih =>
    exact ih _ (h entry (hl entry List.mem_cons_self) w hw) fun e he =>
      hl e (List.mem_cons_of_mem _ he)

end MailSync
