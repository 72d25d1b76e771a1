/-!
# Shortest decimals

The decimal with the fewest digits that reads back to a finite floating-point number, and of
those the nearest to it. It is found in exact arithmetic: a coarser power of ten is tried
before a finer one, and the first whose multiples meet the numbers that round to the value
gives the digits.
-/
namespace MailSync.Number

/-- The numbers that round to a positive value, in quarters of a power of two. -/
structure Interval where
  value : Nat
  low : Nat
  high : Nat
  /-- The power of two that the quarters are quarters of. -/
  power : Int
  /-- Whether the ends round to the value as well. -/
  closed : Bool
deriving Repr, DecidableEq

namespace Interval

/-- The interval of a positive finite double, by its bits without the sign. Below a power of
two the numbers lie twice as dense. -/
def ofBits (bits : Nat) : Interval :=
  let field : Nat := bits >>> 52
  let fraction : Nat := bits % 0x10000000000000
  let significand : Nat := if field = 0 then fraction else fraction + 0x10000000000000
  let power : Int := if field = 0 then -1074 else (field : Int) - 1075
  let below := if fraction = 0 ∧ 1 < field then 1 else 2
  ⟨4 * significand, 4 * significand - below, 4 * significand + 2, power, significand % 2 = 0⟩

/-- A number of quarters, on a scale on which it can be compared with multiples of a power of
ten. -/
def quarters (i : Interval) (exponent : Int) (n : Nat) : Nat :=
  (n <<< (i.power - 2).toNat) * Nat.pow 10 (-exponent).toNat

/-- A multiple of a power of ten, on the same scale. -/
def multiple (i : Interval) (exponent : Int) (n : Nat) : Nat :=
  (n * Nat.pow 10 exponent.toNat) <<< (2 - i.power).toNat

/-- Whether a multiple of a power of ten rounds to the value. -/
def holds (i : Interval) (exponent : Int) (n : Nat) : Bool :=
  let low := i.quarters exponent i.low
  let high := i.quarters exponent i.high
  let x := i.multiple exponent n
  if i.closed then low ≤ x && x ≤ high else low < x && x < high

/-- The multiple of a power of ten that is nearest to the value among those that round to it.
Of two that are equally near, the even one. -/
def nearest? (i : Interval) (exponent : Int) : Option Nat :=
  let value := i.quarters exponent i.value
  let below := value / i.multiple exponent 1
  let above := below + 1
  let down := value - i.multiple exponent below
  let up := i.multiple exponent above - value
  let belowFirst := down < up || (down = up && below % 2 = 0)
  let order := if belowFirst then [below, above] else [above, below]
  order.find? fun n => 0 < n && i.holds exponent n

/-- Tries powers of ten from a coarse one on, as many as there is fuel for. -/
def shortestFrom (i : Interval) : Nat → Int → Nat × Int
  | 0, exponent => (i.value, exponent)
  | fuel + 1, exponent =>
    match i.nearest? exponent with
    | some n => (n, exponent)
    | none => shortestFrom i fuel (exponent - 1)

/-- Digits and power of ten. Powers from 309 down to -324 are enough for every double. -/
def shortest (i : Interval) : Nat × Int := i.shortestFrom 640 309

end Interval
end MailSync.Number
