import Mathlib.Data.List.Induction
import MailSync.Client
import MailSync.Proofs.Mailbox.Marking
import MailSync.Proofs.Mailbox.ReadBack

/-!
# Windows and the marker of older messages

Windows of folders are chosen and widened in any order. What such calls make of the marks of a
folder depends on these marks alone, so a run of calls is a run over the marks, call by call. Only a
step to the unbounded window clears the marker of older messages, and nothing ever sets it again: a
window that is chosen afterwards leaves it as it is. So a marker that is cleared says that the
window was unbounded once, and that it is so now unless another was chosen since.
-/
namespace MailSync
open Mailbox (Has KeepsMarks Medium Memory mark? olderMark windowMark windowOf?)

variable {σ : Type} [Medium σ] {s : Surroundings σ} {w : World σ}

/-- A call about the window of a folder. -/
inductive WindowCall where
  | choose (folder : String) (window : Window)
  | widen (folder : String)
deriving Repr, DecidableEq

namespace WindowCall

def folder : WindowCall → String
  | choose folder _ => folder
  | widen folder => folder

/-- The world once the client has made the call, whatever it answered. -/
def run (s : Surroundings σ) (w : World σ) : WindowCall → World σ
  | choose folder window => ((Client.setWindow folder window).runIn s w).2
  | widen folder => ((Client.widenWindow folder).runIn s w).2

/-- The world after calls in a row. -/
def runAll (s : Surroundings σ) (w : World σ) (calls : List WindowCall) : World σ :=
  calls.foldl (run s) w

end WindowCall

variable {folder : String}

/-- What the marks of a folder say of its window. -/
structure WindowMarks where
  window : Option Window
  hasOlder : Bool
deriving Repr, DecidableEq

namespace WindowMarks

/-- The marks as a storage has them. -/
def of (store : σ) (folder : String) : WindowMarks where
  window := (mark? store folder windowMark).bind windowOf?
  hasOlder := mark? store folder olderMark ≠ some "false"

def inForce (m : WindowMarks) : Window := m.window.getD .standard

def choose (m : WindowMarks) (window : Window) : WindowMarks := { m with window := some window }

/-- The marks once the window was widened, if it can be. -/
def widen (m : WindowMarks) : WindowMarks :=
  match m.inForce.next? with
  | none => m
  | some window => ⟨some window, m.hasOlder && window ≠ .all⟩

/-- What a call makes of the marks of a folder. -/
def after (folder : String) (m : WindowMarks) : WindowCall → WindowMarks
  | .choose id window => if id = folder then m.choose window else m
  | .widen id => if id = folder then m.widen else m

end WindowMarks

theorem Window.next?_eq_none_iff {w : Window} : w.next? = none ↔ w = .all := by
  cases w <;> decide

theorem Window.next?_eq_all_iff {w : Window} : w.next? = some .all ↔ w = .oneMonth := by
  cases w <;> decide

theorem Window.ne_all_of_next? {w u : Window} (h : w.next? = some u) : w ≠ .all := by
  rintro rfl
  cases h

theorem Mailbox.windowOf?_code (w : Window) : windowOf? (toString w.code.toNat) = some w := by
  cases w <;> decide

/-! ### Runs over the marks -/

namespace WindowMarks
variable {m : WindowMarks}

theorem widen_of_next {w : Window} (h : m.inForce.next? = some w) :
    m.widen = ⟨some w, m.hasOlder && w ≠ .all⟩ := by
  rw [widen, h]

theorem widen_of_all (h : m.inForce = .all) : m.widen = m := by
  rw [widen, Window.next?_eq_none_iff.mpr h]

/-- A step clears the marker if it leads to the unbounded window. -/
theorem hasOlder_widen_eq_false_iff :
    m.widen.hasOlder = false ↔ m.hasOlder = false ∨ m.inForce = .oneMonth := by
  cases hnext : m.inForce.next? with
  | none =>
    have hall := Window.next?_eq_none_iff.mp hnext
    rw [widen_of_all hall, hall]
    simp
  | some w =>
    have hmonth : m.inForce = .oneMonth ↔ w = .all := by
      rw [← Window.next?_eq_all_iff, hnext, Option.some.injEq]
    rw [widen_of_next hnext, hmonth]
    cases m.hasOlder <;> simp

/-- The last call of a run either clears the marker, or finds it as it leaves it. -/
theorem hasOlder_after_eq_false_iff (c : WindowCall) : (m.after folder c).hasOlder = false ↔
    m.hasOlder = false ∨ c = .widen folder ∧ m.inForce = .oneMonth := by
  cases c with
  | choose id w =>
    have hkeeps : (m.after folder (.choose id w)).hasOlder = m.hasOlder := by
      simp only [after]
      split_ifs <;> rfl
    simp [hkeeps]
  | widen id =>
    by_cases hid : id = folder
    · subst hid
      rw [after, if_pos rfl, hasOlder_widen_eq_false_iff]
      simp
    · rw [after, if_neg hid]
      simp [hid]

/-- The marker is cleared exactly if some call widened the window from a month to all. -/
theorem hasOlder_foldl_eq_false_iff (h : m.hasOlder = true) (calls : List WindowCall) :
    (calls.foldl (after folder) m).hasOlder = false ↔ ∃ before rest,
      calls = before ++ .widen folder :: rest ∧
      (before.foldl (after folder) m).inForce = .oneMonth := by
  -- On the calls from the last one: it clears the marker, or one before it did.
  induction calls using List.reverseRecOn with
  | nil => simp [h]
  | append_singleton calls c ih =>
    rw [List.foldl_concat, hasOlder_after_eq_false_iff, ih]
    constructor
    · rintro (⟨before, rest, rfl, hm⟩ | ⟨rfl, hm⟩)
      · exact ⟨before, rest ++ [c], by simp, hm⟩
      · exact ⟨calls, [], rfl, hm⟩
    · rintro ⟨before, rest, hcalls, hm⟩
      cases rest using List.reverseRecOn with
      | nil =>
        obtain ⟨rfl, hc⟩ := List.append_inj' hcalls rfl
        exact .inr ⟨List.singleton_inj.mp hc, hm⟩
      | append_singleton rest d =>
        rw [← List.cons_append, ← List.append_assoc] at hcalls
        obtain ⟨rfl, -⟩ := List.append_inj' hcalls rfl
        exact .inl ⟨before, rest, rfl, hm⟩

/-- If a call leaves the marker cleared, then it leaves the window at all, or the marker was cleared
before and the call chose another window if it was at all. -/
theorem window_after_of_hasOlder_eq_false {c : WindowCall}
    (h : (m.after folder c).hasOlder = false) :
    (m.after folder c).window = some .all ∨
      m.hasOlder = false ∧ (m.window = some .all → ∃ w, c = .choose folder w ∧ w ≠ .all) := by
  have hsame (hold : m.hasOlder = false) : m.window = some .all ∨
      m.hasOlder = false ∧ (m.window = some .all → ∃ w, c = .choose folder w ∧ w ≠ .all) :=
    (Classical.em _).imp_right fun hne => ⟨hold, fun hall => absurd hall hne⟩
  cases c with
  | choose id w =>
    by_cases hid : id = folder
    · subst hid
      rw [after, if_pos rfl] at h ⊢
      by_cases hw : w = .all
      · exact .inl (congrArg some hw)
      · exact .inr ⟨h, fun _ => ⟨w, rfl, hw⟩⟩
    · rw [after, if_neg hid] at h ⊢
      exact hsame h
  | widen id =>
    by_cases hid : id = folder
    · subst hid
      rw [after, if_pos rfl] at h ⊢
      cases hnext : m.inForce.next? with
      | none =>
        rw [widen_of_all (Window.next?_eq_none_iff.mp hnext)] at h ⊢
        exact hsame h
      | some u =>
        rw [widen_of_next hnext] at h ⊢
        by_cases hu : u = .all
        · exact .inl (congrArg some hu)
        · have hold : m.hasOlder = false := by simpa [hu] using h
          refine .inr ⟨hold, fun hall => absurd ?_ (Window.ne_all_of_next? hnext)⟩
          rw [inForce, hall, Option.getD_some]
    · rw [after, if_neg hid] at h ⊢
      exact hsame h

/-- While the marker is cleared the window is all, or else a call chose another one since. -/
theorem window_of_hasOlder_eq_false (h : m.hasOlder = true) {calls : List WindowCall}
    (hcleared : (calls.foldl (after folder) m).hasOlder = false) :
    (calls.foldl (after folder) m).window = some .all ∨ ∃ before w rest,
      calls = before ++ .choose folder w :: rest ∧ w ≠ .all ∧
      (before.foldl (after folder) m).hasOlder = false := by
  induction calls using List.reverseRecOn with
  | nil => simp [h] at hcleared
  | append_singleton calls c ih =>
    rw [List.foldl_concat] at hcleared ⊢
    obtain hall | ⟨hold, hchosen⟩ := window_after_of_hasOlder_eq_false hcleared
    · exact .inl hall
    · right
      obtain hall | ⟨before, w, rest, rfl, hw, hb⟩ := ih hold
      · obtain ⟨w, rfl, hw⟩ := hchosen hall
        exact ⟨calls, w, [], rfl, hw, hold⟩
      · exact ⟨before, w, rest ++ [c], by simp, hw, hb⟩

end WindowMarks

/-! ### Calls on a storage -/

namespace World

/-- The world once a window was stored. -/
def windowed (w : World σ) (folder : String) (window : Window) : World σ :=
  w.marking folder windowMark (some (toString window.code.toNat))

/-- The world once the marker of older messages was cleared. -/
def exhausted (w : World σ) (folder : String) : World σ :=
  w.marking folder olderMark (some "false")

end World

variable [KeepsMarks σ]

namespace Mailbox.Has

theorem windowed (h : Has w.mailbox folder) (window : Window) (id : String) :
    Has (w.windowed folder window).mailbox id ↔ Has w.mailbox id := h.marking _ _ id

theorem exhausted (h : Has w.mailbox folder) (id : String) :
    Has (w.exhausted folder).mailbox id ↔ Has w.mailbox id := h.marking _ _ id

end Mailbox.Has

namespace WindowMarks

theorem of_windowed (h : Has w.mailbox folder) (window : Window) (id : String) :
    of (w.windowed folder window).mailbox id =
      if folder = id then (of w.mailbox id).choose window else of w.mailbox id := by
  have hne : windowMark ≠ olderMark := by decide
  simp only [of, World.windowed, h.mark?_marking, hne, and_true, and_false, if_false]
  split_ifs
  · simp only [choose, Option.bind_some, Mailbox.windowOf?_code]
  · rfl

theorem of_exhausted (h : Has w.mailbox folder) (id : String) :
    of (w.exhausted folder).mailbox id =
      if folder = id then { of w.mailbox id with hasOlder := false } else of w.mailbox id := by
  have hne : olderMark ≠ windowMark := by decide
  simp only [of, World.exhausted, h.mark?_marking, hne, and_true, and_false, if_false]
  split_ifs <;> rfl

theorem runIn_window? (folder : String) :
    (Mailbox.window? folder).runIn s w = (.ok (of w.mailbox folder).window, w) := by
  rw [Mailbox.window?, Operation.runIn_bind_ok (Operation.runIn_ask_mark folder windowMark)]
  rfl

theorem runIn_hasOlder (folder : String) :
    (Mailbox.hasOlder folder).runIn s w = (.ok (of w.mailbox folder).hasOlder, w) := by
  rw [Mailbox.hasOlder, Operation.runIn_bind_ok (Operation.runIn_ask_mark folder olderMark)]
  rfl

theorem runIn_setWindow (h : Has w.mailbox folder) (window : Window) :
    (Mailbox.setWindow folder window).runIn s w = (.ok (), w.windowed folder window) := by
  rw [Mailbox.setWindow, Operation.runIn_tryCatch, Operation.runIn_ask_setMark h]
  rfl

end WindowMarks

namespace Client

theorem runIn_window (h : Has w.mailbox folder) :
    (window folder).runIn s w = (.ok (WindowMarks.of w.mailbox folder).inForce, w) := by
  rw [window, Collection.windowOf, Operation.runIn_bind_ok (runIn_requireFolder_of_has h),
    Operation.runIn_bind_ok (WindowMarks.runIn_window? folder)]
  rfl

theorem runIn_setWindow (h : Has w.mailbox folder) (u : Window) :
    (setWindow folder u).runIn s w = (.ok (), w.windowed folder u) := by
  rw [setWindow, Collection.setWindow, Operation.runIn_bind_ok (runIn_requireFolder_of_has h),
    WindowMarks.runIn_setWindow h]

theorem runIn_widenWindow_of_all (h : Has w.mailbox folder)
    (hall : (WindowMarks.of w.mailbox folder).inForce = .all) :
    (widenWindow folder).runIn s w = (.ok false, w) := by
  have hwindow : (Collection.windowOf folder).runIn s w = _ := runIn_window h
  rw [widenWindow, Collection.widen, Operation.runIn_bind_ok hwindow, hall]
  rfl

theorem runIn_widenWindow_of_next (h : Has w.mailbox folder) {u : Window}
    (hnext : (WindowMarks.of w.mailbox folder).inForce.next? = some u) :
    (widenWindow folder).runIn s w =
      (.ok true, if u = .all then (w.windowed folder u).exhausted folder
        else w.windowed folder u) := by
  have hwindow : (Collection.windowOf folder).runIn s w = _ := runIn_window h
  rw [widenWindow, Collection.widen, Operation.runIn_bind_ok hwindow, hnext]
  simp only [Operation.runIn_bind_ok (WindowMarks.runIn_setWindow h u)]
  by_cases hu : u = .all
  · have hclear : (Mailbox.setHasOlder folder false).runIn s (w.windowed folder u) =
        (.ok (), (w.windowed folder u).exhausted folder) :=
      Operation.runIn_ask_setMark ((h.windowed u folder).mpr h) olderMark (some "false")
    rw [if_pos hu, if_pos hu, Operation.runIn_bind_ok hclear]
    rfl
  · rw [if_neg hu, if_neg hu]
    rfl

/-- Nothing is done about a folder that is not there. -/
theorem runIn_of_not_has (h : ¬Has w.mailbox folder) :
    ∃ e, (window folder).runIn s w = (.error e, w) ∧
      (∀ u, (setWindow folder u).runIn s w = (.error e, w)) ∧
      (widenWindow folder).runIn s w = (.error e, w) := by
  obtain ⟨e, he⟩ := runIn_requireFolder_of_not_has (s := s) h
  have hwindow : (Collection.windowOf folder).runIn s w = (.error e, w) := by
    rw [Collection.windowOf, Operation.runIn_bind, he]
  refine ⟨e, hwindow, fun u => ?_, ?_⟩
  · rw [setWindow, Collection.setWindow, Operation.runIn_bind, he]
  · rw [widenWindow, Collection.widen, Operation.runIn_bind, hwindow]

theorem exists_widenWindow (h : Has w.mailbox folder) :
    ∃ widened, ((widenWindow folder).runIn s w).1 = .ok widened := by
  cases hnext : (WindowMarks.of w.mailbox folder).inForce.next? with
  | none =>
    exact ⟨false, congrArg (·.1) (runIn_widenWindow_of_all h (Window.next?_eq_none_iff.mp hnext))⟩
  | some u => exact ⟨true, congrArg (·.1) (runIn_widenWindow_of_next h hnext)⟩

theorem widenWindow_eq_false_iff :
    ((widenWindow folder).runIn s w).1 = .ok false ↔
      ((window folder).runIn s w).1 = .ok .all := by
  by_cases h : Has w.mailbox folder
  · rw [runIn_window h]
    cases hnext : (WindowMarks.of w.mailbox folder).inForce.next? with
    | none =>
      have hall := Window.next?_eq_none_iff.mp hnext
      simp only [runIn_widenWindow_of_all h hall, hall]
    | some u =>
      have hne := Window.ne_all_of_next? hnext
      simp [runIn_widenWindow_of_next h hnext, hne]
  · obtain ⟨e, hwindow, -, hwiden⟩ := runIn_of_not_has (s := s) h
    simp [hwindow, hwiden]

theorem snd_widenWindow_of_eq_false (hfalse : ((widenWindow folder).runIn s w).1 = .ok false) :
    ((widenWindow folder).runIn s w).2 = w := by
  by_cases h : Has w.mailbox folder
  · have hall := widenWindow_eq_false_iff.mp hfalse
    rw [runIn_window h, Except.ok.injEq] at hall
    rw [runIn_widenWindow_of_all h hall]
  · obtain ⟨e, -, -, hwiden⟩ := runIn_of_not_has (s := s) h
    rw [hwiden]

end Client

/-! ### Runs of calls -/

namespace WindowCall

theorem run_of_not_has (c : WindowCall) (h : ¬Has w.mailbox c.folder) : c.run s w = w := by
  obtain ⟨e, -, hchoose, hwiden⟩ := Client.runIn_of_not_has (s := s) h
  cases c with
  | choose id u => exact congrArg (·.2) (hchoose u)
  | widen id => exact congrArg (·.2) hwiden

theorem run_choose (h : Has w.mailbox folder) (u : Window) :
    (choose folder u).run s w = w.windowed folder u :=
  congrArg (·.2) (Client.runIn_setWindow h u)

theorem run_widen_of_all (h : Has w.mailbox folder)
    (hall : (WindowMarks.of w.mailbox folder).inForce = .all) : (widen folder).run s w = w :=
  congrArg (·.2) (Client.runIn_widenWindow_of_all h hall)

theorem run_widen_of_next (h : Has w.mailbox folder) {u : Window}
    (hnext : (WindowMarks.of w.mailbox folder).inForce.next? = some u) :
    (widen folder).run s w = if u = .all then (w.windowed folder u).exhausted folder
      else w.windowed folder u :=
  congrArg (·.2) (Client.runIn_widenWindow_of_next h hnext)

theorem has_run (c : WindowCall) (id : String) :
    Has (c.run s w).mailbox id ↔ Has w.mailbox id := by
  cases c with
  | choose f u =>
    by_cases h : Has w.mailbox f
    · rw [run_choose h]
      exact h.windowed u id
    · rw [run_of_not_has (.choose f u) h]
  | widen f =>
    by_cases h : Has w.mailbox f
    · cases hnext : (WindowMarks.of w.mailbox f).inForce.next? with
      | none => rw [run_widen_of_all h (Window.next?_eq_none_iff.mp hnext)]
      | some u =>
        rw [run_widen_of_next h hnext]
        split_ifs
        · rw [((h.windowed u f).mpr h).exhausted, h.windowed]
        · exact h.windowed u id
    · rw [run_of_not_has (.widen f) h]

/-- What a call makes of the marks of a folder depends on these marks alone. -/
theorem marks_run (h : Has w.mailbox folder) (c : WindowCall) :
    WindowMarks.of (c.run s w).mailbox folder =
      (WindowMarks.of w.mailbox folder).after folder c := by
  cases c with
  | choose f u =>
    by_cases hc : Has w.mailbox f
    · rw [run_choose hc, WindowMarks.of_windowed hc, WindowMarks.after]
    · have hne : f ≠ folder := fun hf => hc (hf ▸ h)
      rw [run_of_not_has (.choose f u) hc, WindowMarks.after, if_neg hne]
  | widen f =>
    rw [WindowMarks.after]
    by_cases hc : Has w.mailbox f
    · cases hnext : (WindowMarks.of w.mailbox f).inForce.next? with
      | none =>
        have hall := Window.next?_eq_none_iff.mp hnext
        rw [run_widen_of_all hc hall]
        split_ifs with hf
        · rw [← hf, WindowMarks.widen_of_all hall]
        · rfl
      | some u =>
        have hcleared := WindowMarks.of_exhausted ((hc.windowed u f).mpr hc) folder
        rw [run_widen_of_next hc hnext, apply_ite World.mailbox,
          apply_ite (WindowMarks.of · folder), hcleared, WindowMarks.of_windowed hc]
        by_cases hf : f = folder
        · subst hf
          simp only [if_true, WindowMarks.widen_of_next hnext, WindowMarks.choose]
          by_cases hu : u = .all <;> simp [hu]
        · simp only [hf, if_false, ite_self]
    · have hne : f ≠ folder := fun hf => hc (hf ▸ h)
      rw [run_of_not_has (.widen f) hc, if_neg hne]

/-- Over a run the marks go their way by the calls alone. -/
theorem marks_runAll (h : Has w.mailbox folder) (calls : List WindowCall) :
    WindowMarks.of (runAll s w calls).mailbox folder =
      calls.foldl (WindowMarks.after folder) (WindowMarks.of w.mailbox folder) := by
  induction calls generalizing w with
  | nil => rfl
  | cons c calls ih =>
    rw [List.foldl_cons, ← marks_run h c]
    exact ih ((has_run c folder).mpr h)

theorem has_runAll (calls : List WindowCall) (id : String) :
    Has (runAll s w calls).mailbox id ↔ Has w.mailbox id := by
  induction calls generalizing w with
  | nil => rfl
  | cons c calls ih => exact (ih (w := c.run s w)).trans (has_run c id)

end WindowCall

namespace Collection
open WindowCall (runAll)

/-- What the marker of a folder and the answers about windows are after a run of calls. -/
structure FollowsWidening (s : Surroundings σ) (w : World σ) (folder : String)
    (calls : List WindowCall) : Prop where
  answers : ∃ older, (Mailbox.hasOlder folder).runIn s (runAll s w calls) =
    (.ok older, runAll s w calls)
  /-- The marker is cleared exactly if a call found the window at a month and widened it. -/
  cleared_iff : ((Mailbox.hasOlder folder).runIn s (runAll s w calls)).1 = .ok false ↔
    ∃ before rest, calls = before ++ .widen folder :: rest ∧
      ((Client.window folder).runIn s (runAll s w before)).1 = .ok .oneMonth
  /-- Then the window is all, but for one that was chosen when the marker was cleared already. -/
  all_or_chosen : ((Mailbox.hasOlder folder).runIn s (runAll s w calls)).1 = .ok false →
    ((Mailbox.window? folder).runIn s (runAll s w calls)).1 = .ok (some .all) ∨
    ∃ before u rest, calls = before ++ .choose folder u :: rest ∧ u ≠ .all ∧
      ((Mailbox.hasOlder folder).runIn s (runAll s w before)).1 = .ok false
  /-- Every folder that is there can be asked to widen its window. -/
  widens : ∀ id, Has w.mailbox id →
    ∃ widened, ((Client.widenWindow id).runIn s (runAll s w calls)).1 = .ok widened
  refused_iff : ∀ id, ((Client.widenWindow id).runIn s (runAll s w calls)).1 = .ok false ↔
    ((Client.window id).runIn s (runAll s w calls)).1 = .ok .all
  unchanged : ∀ id, ((Client.widenWindow id).runIn s (runAll s w calls)).1 = .ok false →
    ((Client.widenWindow id).runIn s (runAll s w calls)).2 = runAll s w calls

/-- From a folder whose marker was never set, windows are chosen and widened in any order, of
this folder and of others. -/
theorem marker_follows_widening (h : Has w.mailbox folder)
    (hunset : mark? w.mailbox folder olderMark = none) (calls : List WindowCall) :
    FollowsWidening s w folder calls := by
  have hmarks (calls : List WindowCall) := WindowCall.marks_runAll (s := s) h calls
  have hhas (calls : List WindowCall) := (WindowCall.has_runAll (s := s) calls folder).mpr h
  have holder : (WindowMarks.of w.mailbox folder).hasOlder = true := by
    simp [WindowMarks.of, hunset]
  constructor
  · exact ⟨_, WindowMarks.runIn_hasOlder folder⟩
  · simp only [WindowMarks.runIn_hasOlder, Client.runIn_window (hhas _), hmarks, Except.ok.injEq]
    exact WindowMarks.hasOlder_foldl_eq_false_iff holder calls
  · simp only [WindowMarks.runIn_hasOlder, WindowMarks.runIn_window?, hmarks, Except.ok.injEq]
    exact WindowMarks.window_of_hasOlder_eq_false holder
  · exact fun id hid =>
      Client.exists_widenWindow ((WindowCall.has_runAll (s := s) calls id).mpr hid)
  · exact fun id => Client.widenWindow_eq_false_iff
  · exact fun id => Client.snd_widenWindow_of_eq_false

/-- A window that is widened to all and then narrowed. -/
def narrowing : List WindowCall := [.choose "5" .oneMonth, .widen "5", .choose "5" .oneWeek]

/-- In tables too the marker stays cleared when the window is narrowed again. -/
theorem narrowing_follows :
    (Has (World.start Mailbox.inboxTables).mailbox "5" ∧
      mark? (World.start Mailbox.inboxTables).mailbox "5" olderMark = none) ∧
    FollowsWidening .silent (.start Mailbox.inboxTables) "5" narrowing ∧
    ((Mailbox.hasOlder "5").runIn .silent
      (runAll .silent (.start Mailbox.inboxTables) narrowing)).1 = .ok false := by
  have h : Has (World.start Mailbox.inboxTables).mailbox "5" :=
    ⟨⟨"5", "Inbox", .inbox, none⟩, rfl⟩
  have hfollows := marker_follows_widening (s := .silent) h rfl narrowing
  refine ⟨⟨h, rfl⟩, hfollows, hfollows.cleared_iff.mpr ?_⟩
  exact ⟨[.choose "5" .oneMonth], [.choose "5" .oneWeek], rfl, rfl⟩

/-- A marker that is cleared does not say that the window is all. -/
theorem not_every_marker_follows :
    ¬∀ (s : Surroundings Memory) (w : World Memory) (folder : String) (calls : List WindowCall),
      Has w.mailbox folder → mark? w.mailbox folder olderMark = none →
      ((Mailbox.hasOlder folder).runIn s (runAll s w calls)).1 = .ok false →
      ((Mailbox.window? folder).runIn s (runAll s w calls)).1 = .ok (some .all) := by
  intro hall
  have h : Has World.inbox.mailbox "5" := ⟨⟨"5", "Inbox", .inbox, none⟩, rfl⟩
  have hmarks : WindowMarks.of (runAll .silent .inbox narrowing).mailbox "5" =
      ⟨some .oneWeek, false⟩ := by
    rw [WindowCall.marks_runAll h]
    rfl
  have hcleared : ((Mailbox.hasOlder "5").runIn .silent (runAll .silent .inbox narrowing)).1 =
      .ok false := by
    rw [WindowMarks.runIn_hasOlder, hmarks]
  have hwindow := hall .silent .inbox "5" narrowing h rfl hcleared
  rw [WindowMarks.runIn_window?, hmarks] at hwindow
  cases hwindow

end Collection
end MailSync
