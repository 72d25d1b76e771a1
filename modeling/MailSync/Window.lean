/-!
# Sync windows

How far back a folder is kept in step. Windows are ordered by time span, so the unbounded
one is the largest although its code is zero.
-/
namespace MailSync

inductive Window where
  | all | oneDay | threeDays | oneWeek | twoWeeks | oneMonth
deriving Repr, DecidableEq

namespace Window

inductive Span where
  | unbounded | days | weeks | months
deriving Repr, DecidableEq

def code : Window → UInt32
  | all => 0
  | oneDay => 1
  | threeDays => 2
  | oneWeek => 3
  | twoWeeks => 4
  | oneMonth => 5

def ofCode? (c : UInt32) : Option Window :=
  [all, oneDay, threeDays, oneWeek, twoWeeks, oneMonth].find? (·.code = c)

/-- The place in the order by time span. -/
def rank : Window → Nat
  | oneDay => 0
  | threeDays => 1
  | oneWeek => 2
  | twoWeeks => 3
  | oneMonth => 4
  | all => 5

/-- The next larger window; none behind the unbounded one. -/
def next? : Window → Option Window
  | oneDay => some threeDays
  | threeDays => some oneWeek
  | oneWeek => some twoWeeks
  | twoWeeks => some oneMonth
  | oneMonth => some all
  | all => none

/-- The smaller of two windows. -/
def cappedAt (w limit : Window) : Window := if w.rank ≤ limit.rank then w else limit

/-- A count and a unit to show a window by. -/
def span : Window → Nat × Span
  | all => (0, .unbounded)
  | oneDay => (1, .days)
  | threeDays => (3, .days)
  | oneWeek => (1, .weeks)
  | twoWeeks => (2, .weeks)
  | oneMonth => (1, .months)

/-- The name shown on the command line. -/
def title : Window → String
  | all => "All"
  | oneDay => "OneDay"
  | threeDays => "ThreeDays"
  | oneWeek => "OneWeek"
  | twoWeeks => "TwoWeeks"
  | oneMonth => "OneMonth"

/-- The window of a folder for which none was chosen. -/
def standard : Window := oneWeek

/-- Sorted by time span, smallest first. -/
def sort (ws : List Window) : List Window := ws.mergeSort fun a b => a.rank ≤ b.rank

def max? (ws : List Window) : Option Window :=
  ws.foldl (fun best w =>
    match best with
    | none => some w
    | some b => if b.rank ≤ w.rank then some w else some b) none

theorem ofCode?_code (w : Window) : ofCode? w.code = some w := by
  cases w <;> decide

theorem rank_lt_of_next? {w v : Window} (h : w.next? = some v) : w.rank < v.rank := by
  cases w <;> cases h <;> decide

end Window
end MailSync
