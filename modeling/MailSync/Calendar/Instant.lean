import MailSync.Calendar.Date

/-!
# Instants

Moments in universal time, to the nanosecond. A leap second is the last second of its
minute with a thousand million nanoseconds or more.
-/
namespace MailSync

structure Instant where
  date : Date
  /-- Seconds since midnight. -/
  second : Nat
  /-- Nanoseconds within the second. -/
  nano : Nat
deriving Repr, DecidableEq

namespace Instant

def secondsPerDay : Nat := 86400

def leap : Nat := 1000000000

def midnight (date : Date) : Instant := ⟨date, 0, 0⟩

/-- The instant at which a clock that is `offset` seconds ahead shows a local time. Offsets
stay below a day, so the date moves by one at most. -/
def ofLocal (date : Date) (second nano : Nat) (offset : Int) : Instant :=
  let s : Int := second - offset
  if s < 0 then ⟨date.previous, (s + secondsPerDay).toNat, nano⟩
  else if s < secondsPerDay then ⟨date, s.toNat, nano⟩
  else ⟨date.next, (s - secondsPerDay).toNat, nano⟩

end Instant
end MailSync
