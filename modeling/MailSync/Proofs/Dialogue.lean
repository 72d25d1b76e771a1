import Mathlib.Data.List.Induction
import MailSync.Proofs.Effects
import MailSync.Proofs.Overwrite
import MailSync.SyncKey

/-!
# Dialogues about a key

What a pass has come to can be told from its exchanges alone. Each reply that is accepted adds what
it brings, and its key is the next one to send. Some failures begin again with nothing, and others
change nothing. Whatever runs in between and asks for something else leaves the pass where it
stands. Passes over the hierarchy and over a collection are two such dialogues.
-/
namespace MailSync
open Mailbox (Memory)

/-- Where a pass stands: the key for the next round, and the replies accepted since the last fresh
start, each with the key that was sent for it. -/
structure Standing where
  key : Option String
  accepted : List (Option String × Except TransportError Reply)

namespace Standing

/-- Nothing accepted yet. -/
def start (key : Option String) : Standing := ⟨key, []⟩

/-- One more reply, with the key that it leaves. -/
def accept (st : Standing) (key : String) (reply : Except TransportError Reply) : Standing :=
  ⟨some key, st.accepted ++ [(st.key, reply)]⟩

/-- Whether an initial key was answered. -/
def isFresh (st : Standing) : Bool := st.accepted.any fun a => SyncKey.isInitial a.1

/-- What the accepted replies bring, in order. -/
def gathered {δ : Type} (read : Except TransportError Reply → List δ) (st : Standing) : List δ :=
  st.accepted.flatMap fun a => read a.2

theorem isFresh_accept (st : Standing) (key : String) (reply : Except TransportError Reply) :
    (st.accept key reply).isFresh = (st.isFresh || SyncKey.isInitial st.key) := by
  simp [isFresh, accept]

theorem gathered_accept {δ : Type} (read : Except TransportError Reply → List δ) (st : Standing)
    (key : String) (reply : Except TransportError Reply) :
    (st.accept key reply).gathered read = st.gathered read ++ read reply := by
  simp [gathered, accept]

end Standing

/-- A dialogue about something that the server keeps under a key: the command of its requests, the
key that it begins from, what a reply comes to for the key that was sent, the verdicts that have it
begin again and from which key, and what the accepted replies bring altogether. -/
structure Dialogue (β : Type) where
  command : String
  stored : Option String
  outcome : Option String → Except TransportError Reply → Except Failure (Round β)
  restart : Verdict → Option (Option String)
  batch : Standing → β
  extend : β → β → β
  batch_accept {st : Standing} {reply : Except TransportError Reply} {round : Round β} :
    outcome st.key reply = .ok round →
      batch (st.accept round.key reply) = extend (batch st) round.batch

namespace Dialogue
variable {β : Type} (d : Dialogue β)

/-- The standing after one more exchange. -/
def after (st : Standing) (x : Exchanged) : Standing :=
  if x.1.command = d.command then
    match d.outcome st.key x.2 with
    | .ok round => st.accept round.key x.2
    | .error f => (d.restart f.verdict).elim st .start
  else st

/-- The standing after exchanges from the start. -/
def along (xs : List Exchanged) : Standing := xs.foldl d.after (.start d.stored)

/-- Every request asks what it should, by the standing before it. -/
def Asks (Q : Standing → Request → Prop) (xs : List Exchanged) : Prop :=
  ∀ before x rest, xs = before ++ x :: rest → x.1.command = d.command → Q (d.along before) x.1

/-- An exchange that drops what was accepted. -/
def Restarts (st : Standing) (x : Exchanged) : Prop :=
  x.1.command = d.command ∧
    ∃ f key, d.outcome st.key x.2 = .error f ∧ d.restart f.verdict = some key

variable {d} {st : Standing} {x : Exchanged} {xs ys : List Exchanged}
  {Q : Standing → Request → Prop}

theorem after_of_ne (h : x.1.command ≠ d.command) (st : Standing) : d.after st x = st := if_neg h

theorem after_ok {round : Round β} (hx : x.1.command = d.command)
    (h : d.outcome st.key x.2 = .ok round) : d.after st x = st.accept round.key x.2 := by
  rw [after, if_pos hx, h]

theorem after_error {f : Failure} (hx : x.1.command = d.command)
    (h : d.outcome st.key x.2 = .error f) :
    d.after st x = (d.restart f.verdict).elim st .start := by
  rw [after, if_pos hx, h]

theorem Restarts.after (h : d.Restarts st x) : ∃ key, d.after st x = .start key := by
  obtain ⟨hx, f, key, hf, hkey⟩ := h
  exact ⟨key, by rw [after_error hx hf, hkey, Option.elim_some]⟩

/-- What an exchange can come to: a reply is accepted, or the dialogue begins again, or it stays. -/
theorem after_cases (d : Dialogue β) (st : Standing) (x : Exchanged) :
    (x.1.command = d.command ∧ ∃ round, d.outcome st.key x.2 = .ok round ∧
      d.after st x = st.accept round.key x.2) ∨
    (∃ v key, d.restart v = some key ∧ d.after st x = .start key) ∨ d.after st x = st := by
  by_cases hx : x.1.command = d.command
  · cases ho : d.outcome st.key x.2 with
    | ok round => exact .inl ⟨hx, round, rfl, after_ok hx ho⟩
    | error f =>
      have hafter := after_error hx ho
      cases hr : d.restart f.verdict with
      | none => exact .inr (.inr (by rw [hafter, hr, Option.elim_none]))
      | some key => exact .inr (.inl ⟨_, key, hr, by rw [hafter, hr, Option.elim_some]⟩)
  · exact .inr (.inr (after_of_ne hx st))

theorem along_append (d : Dialogue β) (xs ys : List Exchanged) :
    d.along (xs ++ ys) = ys.foldl d.after (d.along xs) :=
  List.foldl_append

theorem along_concat (d : Dialogue β) (xs : List Exchanged) (x : Exchanged) :
    d.along (xs ++ [x]) = d.after (d.along xs) x :=
  d.along_append xs [x]

theorem along_append_of_quiet (xs : List Exchanged) (h : ∀ y ∈ ys, y.1.command ≠ d.command) :
    d.along (xs ++ ys) = d.along xs := by
  rw [along_append]
  exact foldl_of_passing (fun y hy => after_of_ne (h y hy)) _

/-- The last accepted reply decides the key. -/
theorem exists_of_getLast? {a : Option String × Except TransportError Reply}
    (h : (d.along xs).accepted.getLast? = some a) :
    ∃ round, d.outcome a.1 a.2 = .ok round ∧ (d.along xs).key = some round.key := by
  induction xs using List.reverseRecOn with
  | nil => cases h
  | append_singleton xs x ih =>
    rw [along_concat] at h ⊢
    rcases d.after_cases (d.along xs) x with ⟨-, round, ho, ha⟩ | ⟨v, key, -, ha⟩ | ha
    · rw [ha, Standing.accept, List.getLast?_concat] at h
      obtain rfl := Option.some.inj h
      exact ⟨round, ho, by rw [ha]; rfl⟩
    · rw [ha] at h
      cases h
    · rw [ha] at h ⊢
      exact ih h

/-- What is accepted came as a reply. -/
theorem exists_of_mem_accepted {a : Option String × Except TransportError Reply}
    (h : a ∈ (d.along xs).accepted) : ∃ x ∈ xs, x.1.command = d.command ∧ a.2 = x.2 := by
  induction xs using List.reverseRecOn with
  | nil => cases h
  | append_singleton xs x ih =>
    have hearlier (h : a ∈ (d.along xs).accepted) :
        ∃ y ∈ xs ++ [x], y.1.command = d.command ∧ a.2 = y.2 := by
      obtain ⟨y, hy, ha⟩ := ih h
      exact ⟨y, List.mem_append_left _ hy, ha⟩
    rw [along_concat] at h
    rcases d.after_cases (d.along xs) x with ⟨hx, round, -, ha⟩ | ⟨v, key, -, ha⟩ | ha
    · rw [ha] at h
      rcases List.mem_append.mp h with h | h
      · exact hearlier h
      · exact ⟨x, by simp, hx, by rw [List.mem_singleton.mp h]⟩
    · rw [ha] at h
      cases h
    · exact hearlier (ha ▸ h)

theorem Asks.nil (d : Dialogue β) (Q : Standing → Request → Prop) : d.Asks Q [] :=
  fun before x rest h => absurd h.symm (by simp)

/-- More exchanges keep to it if each of them does, by where those before it have led. -/
theorem Asks.append (h : d.Asks Q xs)
    (hrest : ∀ before x rest, ys = before ++ x :: rest → x.1.command = d.command →
      Q (d.along (xs ++ before)) x.1) : d.Asks Q (xs ++ ys) := by
  intro before x rest hsplit hx
  rcases List.append_eq_append_iff.mp hsplit with ⟨zs, rfl, hys⟩ | ⟨zs, hxs, hys⟩
  · exact hrest zs x rest hys hx
  · cases zs with
    | nil =>
      rw [List.append_nil] at hxs
      rw [← hxs, ← List.append_nil xs]
      exact hrest [] x rest hys.symm hx
    | cons z zs =>
      obtain ⟨rfl, rfl⟩ := List.cons.inj hys
      exact h before x zs hxs hx

theorem Asks.concat (h : d.Asks Q xs) (hx : x.1.command = d.command → Q (d.along xs) x.1) :
    d.Asks Q (xs ++ [x]) := by
  refine h.append fun before y rest hsplit hy => ?_
  cases before with
  | nil =>
    obtain ⟨rfl, -⟩ := List.cons.inj hsplit
    rw [List.append_nil]
    exact hx hy
  | cons z before => exact absurd (List.cons.inj hsplit).2 (by simp)

theorem Asks.append_of_quiet (h : d.Asks Q xs) (hys : ∀ y ∈ ys, y.1.command ≠ d.command) :
    d.Asks Q (xs ++ ys) := by
  refine h.append fun before x rest hsplit hx => absurd hx (hys x ?_)
  rw [hsplit]
  exact List.mem_append_right before List.mem_cons_self

theorem Asks.mono {Q' : Standing → Request → Prop} (h : d.Asks Q xs)
    (hQ : ∀ st q, Q st q → Q' st q) : d.Asks Q' xs :=
  fun before x rest hsplit hx => hQ _ _ (h before x rest hsplit hx)

/-! ### From one world to a later one -/

variable {w v u : World Memory}

theorem since_exchanged (h : w.history <+: v.history) (account : Account) (q : Request)
    (r : Except TransportError Reply) (c : Bool) :
    w.since (v.exchanged account q r c) = w.since v ++ [(q, r)] := by
  have hr : v.history <+: (v.exchanged account q r c).history := List.prefix_append ..
  rw [World.since_append h hr]
  exact congrArg (w.since v ++ ·) (World.since_eq (World.exchanges_exchanged ..))

theorem along_since_of_quiet (h : w.history <+: v.history) (hq : v.Quiet d.command u) :
    d.along (w.since u) = d.along (w.since v) := by
  rw [World.since_append h hq.history, along_append_of_quiet _ hq.since]

/-- What an outcome makes of a key and a batch. -/
inductive Leads (d : Dialogue β) (key : Option String) (b : β) :
    Except Failure (Round β) → Option String → β → Prop
  | accept (round : Round β) : Leads d key b (.ok round) (some round.key) (d.extend b round.batch)
  | restart {f : Failure} {key' : Option String} (restart : d.restart f.verdict = some key') :
      Leads d key b (.error f) key' (d.batch (.start key'))
  | stay {f : Failure} (restart : d.restart f.verdict = none) : Leads d key b (.error f) key b

/-- The key and the batch of a pass are where the exchanges have left the dialogue, and each request
asked with the key of the standing before it. -/
structure Tracks (d : Dialogue β) (Q : Standing → Request → Prop) (w : World Memory)
    (key : Option String) (b : β) (v : World Memory) : Prop where
  history : w.history <+: v.history
  key : key = (d.along (w.since v)).key
  batch : b = d.batch (d.along (w.since v))
  asks : d.Asks Q (w.since v)

namespace Tracks
variable {key key' : Option String} {b b' : β}

/-- Where a pass begins. -/
theorem start (d : Dialogue β) (Q : Standing → Request → Prop) (w : World Memory) :
    d.Tracks Q w d.stored (d.batch (.start d.stored)) w := by
  constructor
  · exact List.prefix_rfl
  · rw [World.since_self]
    rfl
  · rw [World.since_self]
    rfl
  · rw [World.since_self]
    exact .nil d Q

/-- Whatever runs in between, if it asks for something else. -/
theorem quiet (h : d.Tracks Q w key b v) (hq : v.Quiet d.command u) : d.Tracks Q w key b u where
  history := h.history.trans hq.history
  key := by rw [along_since_of_quiet h.history hq, h.key]
  batch := by rw [along_since_of_quiet h.history hq, h.batch]
  asks := by
    rw [World.since_append h.history hq.history]
    exact h.asks.append_of_quiet hq.since

theorem exchanged (h : d.Tracks Q w key b v) {q : Request} (hcommand : q.command = d.command)
    (hQ : Q (d.along (w.since v)) q) {r : Except TransportError Reply}
    (hl : d.Leads key b (d.outcome key r) key' b') (account : Account) (c : Bool) :
    d.Tracks Q w key' b' (v.exchanged account q r c) := by
  have hsince := since_exchanged h.history account q r c
  have hstanding : key' = (d.along (w.since v ++ [(q, r)])).key ∧
      b' = d.batch (d.along (w.since v ++ [(q, r)])) := by
    have hkey := h.key
    rw [along_concat]
    generalize ho : d.outcome key r = o at hl
    rw [hkey] at ho
    cases hl with
    | accept round =>
      rw [after_ok hcommand ho, d.batch_accept ho, h.batch]
      exact ⟨rfl, rfl⟩
    | restart hr =>
      rw [after_error hcommand ho, hr]
      exact ⟨rfl, rfl⟩
    | stay hr =>
      rw [after_error hcommand ho, hr]
      exact ⟨hkey, h.batch⟩
  constructor
  · exact h.history.trans (List.prefix_append ..)
  · rw [hsince]
    exact hstanding.1
  · rw [hsince]
    exact hstanding.2
  · rw [hsince]
    exact h.asks.concat fun _ => hQ

theorem accepted_ne_nil (h : d.Tracks Q w key b v) {q : Request} (hcommand : q.command = d.command)
    {r : Except TransportError Reply} {round : Round β} (ho : d.outcome key r = .ok round)
    (account : Account) (c : Bool) :
    (d.along (w.since (v.exchanged account q r c))).accepted ≠ [] := by
  rw [since_exchanged h.history, along_concat, after_ok hcommand (h.key ▸ ho), Standing.accept]
  simp

/-- Neither the locks nor a cancellation are tracked. -/
theorem of_eq (h : d.Tracks Q w key b v) {w' v' : World Memory} (hw : w'.history = w.history)
    (hv : v'.history = v.history) : d.Tracks Q w' key b v' := by
  have hsince : w'.since v' = w.since v := by
    rw [World.since, World.exchanges, World.exchanges, hw, hv]
    rfl
  constructor
  · rw [hw, hv]
    exact h.history
  · rw [hsince, h.key]
  · rw [hsince, h.batch]
  · rw [hsince]
    exact h.asks

end Tracks
end Dialogue
end MailSync
