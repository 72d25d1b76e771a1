import MailSync.Mailbox.Memory
import MailSync.Proofs.Run

/-!
# Calls in a row

What a list of calls makes of a mailbox in memory, and the operations that do nothing but make
such a list. A crash leaves the mailbox at one of the stages of an operation: where it began, or
as it was just after one of the events of its history. For an operation that only makes calls
these are the mailboxes after the first few of them.
-/
namespace MailSync
open Mailbox (Call Memory)

namespace Mailbox

/-- The values of a map are those of its entries, in order. -/
theorem values_eq_map_toList {β : Type} (t : Std.ExtTreeMap String β) :
    t.values = t.toList.map (·.2) := by
  have h : t.values = t.foldr (fun _ v l => v :: l) [] := by
    rcases t with ⟨⟨t⟩⟩
    induction t using Quotient.ind
    rfl
  rw [h, Std.ExtTreeMap.foldr_eq_foldr_toList]
  induction t.toList with
  | nil => rfl
  | cons e l ih => exact congrArg (e.2 :: ·) ih

theorem mem_values {β : Type} {t : Std.ExtTreeMap String β} {v : β} :
    v ∈ t.values ↔ ∃ key : String, t[key]? = some v := by
  rw [values_eq_map_toList, List.mem_map]
  constructor
  · rintro ⟨⟨key, v⟩, h, rfl⟩
    exact ⟨key, Std.ExtTreeMap.mem_toList_iff_getElem?_eq_some.mp h⟩
  · rintro ⟨key, h⟩
    exact ⟨(key, v), Std.ExtTreeMap.mem_toList_iff_getElem?_eq_some.mpr h, rfl⟩

namespace Memory

/-- The mailbox after a call. -/
def next (m : Memory) (call : Call) : Memory := (answer call m).2

/-- The mailbox after calls in a row. -/
def after (m : Memory) (calls : List Call) : Memory := calls.foldl next m

@[simp] theorem after_nil (m : Memory) : m.after [] = m := rfl

@[simp] theorem after_cons (m : Memory) (call : Call) (calls : List Call) :
    m.after (call :: calls) = (m.next call).after calls := rfl

theorem after_append (m : Memory) (xs ys : List Call) :
    m.after (xs ++ ys) = (m.after xs).after ys := List.foldl_append

theorem next_of_not_isWrite {call : Call} (h : call.isWrite = false) (m : Memory) :
    m.next call = m := by
  cases call <;> first | rfl | cases h

/-- Calls in a row that all succeed. -/
def Accepts (m : Memory) : List Call → Prop
  | [] => True
  | call :: calls => (∃ a, (answer call m).1 = .ok a) ∧ (m.next call).Accepts calls

theorem accepts_of_forall {calls : List Call}
    (h : ∀ c ∈ calls, ∀ m : Memory, ∃ a, (answer c m).1 = .ok a) (m : Memory) :
    m.Accepts calls := by
  induction calls generalizing m with
  | nil => trivial
  | cons c calls ih =>
    exact ⟨h c List.mem_cons_self m, ih (fun d hd => h d (List.mem_cons_of_mem c hd)) _⟩

/-- What each of some writes leaves behind, one moment a write. -/
def trail (m : Memory) : List Call → List (Moment Memory)
  | [] => []
  | call :: calls => ⟨.wrote call, m.next call⟩ :: (m.next call).trail calls

theorem mailbox_of_mem_trail {m : Memory} {calls : List Call} {moment : Moment Memory}
    (h : moment ∈ m.trail calls) : ∃ k ≤ calls.length, moment.mailbox = m.after (calls.take k) := by
  induction calls generalizing m with
  | nil => cases h
  | cons call calls ih =>
    rcases List.mem_cons.mp h with rfl | h
    · exact ⟨1, by simp, rfl⟩
    · obtain ⟨k, hk, he⟩ := ih h
      exact ⟨k + 1, Nat.succ_le_succ hk, he⟩

end Memory
end Mailbox

variable {α β : Type}

namespace World

/-- A fresh world with one folder, which is empty. -/
def inbox : World Memory := .start (Memory.empty.create ⟨"5", "Inbox", .inbox, none⟩)

/-- The world after writes in a row. -/
def written (w : World Memory) (calls : List Call) : World Memory :=
  { w with
    mailbox := w.mailbox.after calls
    history := w.history ++ w.mailbox.trail calls }

theorem written_cons (w : World Memory) (call : Call) (calls : List Call) :
    w.written (call :: calls) = (w.written [call]).written calls := by
  simp [written, Memory.trail, Memory.next]

@[simp] theorem written_nil (w : World Memory) : w.written [] = w := by
  simp [written, Memory.trail]

theorem written_append (w : World Memory) (xs ys : List Call) :
    w.written (xs ++ ys) = (w.written xs).written ys := by
  induction xs generalizing w with
  | nil => rw [written_nil, List.nil_append]
  | cons c xs ih => rw [List.cons_append, w.written_cons, ih, ← w.written_cons]

end World

/-- The mailboxes that a crash in the middle of an operation can leave. -/
def Operation.stages {σ : Type} [Mailbox.Medium σ] (op : Operation α) (s : Surroundings σ)
    (w : World σ) : List σ :=
  w.mailbox :: ((op.runIn s w).2.history.drop w.history.length).map (·.mailbox)

namespace Effect

theorem perform_ask_read {call : Call} (h : call.isWrite = false) (s : Surroundings Memory)
    (w : World Memory) : (ask call).perform s w = ((Memory.answer call w.mailbox).1, w) := by
  have hn : (Memory.answer call w.mailbox).2 = w.mailbox := Memory.next_of_not_isWrite h w.mailbox
  simp only [perform, Mailbox.Medium.answer, h, hn]
  rfl

theorem perform_ask_write {call : Call} (h : call.isWrite = true) (s : Surroundings Memory)
    (w : World Memory) :
    (ask call).perform s w = ((Memory.answer call w.mailbox).1, w.written [call]) := by
  simp only [perform, Mailbox.Medium.answer, h]
  rfl

end Effect

namespace Operation

theorem runIn_ask_read {call : Call} (h : call.isWrite = false) (s : Surroundings Memory)
    (w : World Memory) :
    (ask call).runIn s w = ((Memory.answer call w.mailbox).1.mapError .storage, w) := by
  rw [runIn_ask, Effect.perform_ask_read h]

theorem runIn_ask_write {call : Call} (h : call.isWrite = true) (s : Surroundings Memory)
    (w : World Memory) :
    (ask call).runIn s w =
      ((Memory.answer call w.mailbox).1.mapError .storage, w.written [call]) := by
  rw [runIn_ask, Effect.perform_ask_write h]

/-- From a world, the operation makes these calls in order and does nothing else. It may stop
early, after a call that failed. -/
structure Writes (op : Operation α) (s : Surroundings Memory) (w : World Memory)
    (calls : List Call) : Prop where
  run : ∃ n, (op.runIn s w).2 = w.written (calls.take n)
  all : ∀ a, (op.runIn s w).1 = .ok a → (op.runIn s w).2 = w.written calls
  ok : w.mailbox.Accepts calls → ∃ a, (op.runIn s w).1 = .ok a

namespace Writes
variable {s : Surroundings Memory} {w : World Memory} {calls : List Call}

theorem pure (a : α) : Writes (pure a) s w [] where
  run := ⟨0, by simp⟩
  all _ _ := by simp
  ok _ := ⟨a, rfl⟩

theorem map {op : Operation α} (h : Writes op s w calls) (f : α → β) :
    Writes (f <$> op) s w calls where
  run := by rw [runIn_map]; exact h.run
  all b hb := by
    rw [runIn_map] at hb ⊢
    cases ha : (op.runIn s w).1 with
    | ok a => exact h.all a ha
    | error e => rw [ha] at hb; cases hb
  ok hc := by
    obtain ⟨a, ha⟩ := h.ok hc
    exact ⟨f a, by rw [runIn_map, ha]; rfl⟩

/-- A call, and what comes after it if it succeeds. -/
theorem ask_bind {call : Call} {f : call.Answer → Operation β} (hw : call.isWrite = true)
    (hf : ∀ a, (Memory.answer call w.mailbox).1 = .ok a → Writes (f a) s (w.written [call]) calls) :
    Writes (ask call >>= f) s w (call :: calls) := by
  have hr := runIn_ask_write hw s w
  cases ha : (Memory.answer call w.mailbox).1 with
  | ok a =>
    rw [ha] at hr
    have h := hf a ha
    constructor
    · obtain ⟨n, hn⟩ := h.run
      exact ⟨n + 1, by rw [runIn_bind_ok hr, hn, List.take_succ_cons, ← World.written_cons]⟩
    · intro b hb
      rw [runIn_bind_ok hr] at hb ⊢
      rw [h.all b hb, ← World.written_cons]
    · rintro ⟨-, hc⟩
      rw [runIn_bind_ok hr]
      exact h.ok hc
  | error e =>
    rw [ha] at hr
    have hb : (ask call >>= f).runIn s w = (.error (.storage e), w.written [call]) := by
      rw [runIn_bind, hr]; rfl
    constructor
    · exact ⟨1, by rw [hb]; rfl⟩
    · intro b hb'; rw [hb] at hb'; cases hb'
    · rintro ⟨⟨a, ha'⟩, -⟩; rw [ha] at ha'; cases ha'

/-- Calls that all succeed are all made. -/
theorem runIn_eq {op : Operation α} (h : Writes op s w calls) (hc : w.mailbox.Accepts calls) :
    ∃ a, op.runIn s w = (.ok a, w.written calls) := by
  obtain ⟨a, ha⟩ := h.ok hc
  exact ⟨a, Prod.ext ha (h.all a ha)⟩

end Writes

/-- Calls that all succeed, made one by one. -/
theorem runIn_forM_ask {calls : List Call} (hw : ∀ c ∈ calls, c.isWrite = true)
    (s : Surroundings Memory) {w : World Memory} (hc : w.mailbox.Accepts calls) :
    (calls.forM fun c => discard (ask c) : Operation Unit).runIn s w =
      (.ok (), w.written calls) := by
  induction calls generalizing w with
  | nil => rw [World.written_nil]; rfl
  | cons c calls ih =>
    obtain ⟨⟨a, ha⟩, hc⟩ := hc
    have hr : (discard (ask c)).runIn s w = (.ok (), w.written [c]) := by
      rw [runIn_discard, runIn_ask_write (hw c List.mem_cons_self), ha]
      rfl
    rw [List.forM_eq_forM, List.forM_cons, runIn_bind_ok hr, w.written_cons c calls]
    exact ih (w := w.written [c]) (fun d hd => hw d (List.mem_cons_of_mem c hd)) hc

/-- A crash among calls in a row leaves the mailbox after the first few. -/
theorem mailbox_of_mem_stages {op : Operation α} {s : Surroundings Memory} {w : World Memory}
    {calls : List Call} (h : (op.runIn s w).2 = w.written calls) {m : Memory}
    (hm : m ∈ op.stages s w) : ∃ k, m = w.mailbox.after (calls.take k) := by
  rcases List.mem_cons.mp hm with rfl | hm
  · exact ⟨0, rfl⟩
  · rw [h] at hm
    simp only [World.written, List.drop_left] at hm
    obtain ⟨moment, ht, rfl⟩ := List.mem_map.mp hm
    obtain ⟨k, -, hk⟩ := Memory.mailbox_of_mem_trail ht
    exact ⟨k, hk⟩

theorem Writes.mailbox_of_mem_stages {op : Operation α} {s : Surroundings Memory}
    {w : World Memory} {calls : List Call} (h : Writes op s w calls) {m : Memory}
    (hm : m ∈ op.stages s w) : ∃ k, m = w.mailbox.after (calls.take k) := by
  obtain ⟨n, hn⟩ := h.run
  obtain ⟨k, hk⟩ := Operation.mailbox_of_mem_stages hn hm
  exact ⟨min k n, by rw [hk, List.take_take]⟩

end Operation
end MailSync
