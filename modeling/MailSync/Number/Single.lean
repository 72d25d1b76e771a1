import MailSync.Number.Decimal

/-!
# Single precision

The single-precision number nearest to a decimal, found in exact arithmetic; a tie goes to
the even one. A number is kept as its bits without the sign, so that the order of magnitudes
is the order of these words.
-/
namespace MailSync.Number

structure Single where
  negative : Bool
  /-- Exponent and fraction. -/
  magnitude : Nat
deriving Repr, DecidableEq

namespace Single

/-- Bits of the significand behind the first. -/
def fractionBits : Nat := 23

/-- The magnitude of infinity. Everything above it is no number. -/
def infinity : Nat := 0x7F800000

def nan : Single := ⟨false, 0x7FC00000⟩

def isNan (s : Single) : Bool := infinity < s.magnitude

/-- The bits as one word. -/
def bits (s : Single) : Nat := if s.negative then s.magnitude + 0x80000000 else s.magnitude

/-- The quotient rounded to the nearest integer, a tie to the even one. -/
def roundDiv (num den : Nat) : Nat :=
  let q := num / den
  let r := num % den
  if 2 * r < den then q
  else if den < 2 * r then q + 1
  else if q % 2 = 0 then q else q + 1

/-- The largest exponent of two whose power is not above a positive quotient, given by the
lengths of its parts and corrected by one where they mislead. -/
def log2 (num den : Nat) : Int :=
  let guess : Int := (num.log2 : Int) - den.log2
  let fits := if 0 ≤ guess then den <<< guess.toNat ≤ num else den ≤ num <<< (-guess).toNat
  if fits then guess else guess - 1

/-- The magnitude nearest to a positive quotient. The place of the last bit is that of the
quotient's own size, but not below the smallest one; a significand that rounds up to the next
power of two carries into the exponent. -/
def nearest (num den : Nat) : Nat :=
  let place := max (log2 num den - fractionBits) (-149)
  let significand :=
    if 0 ≤ place then roundDiv num (den <<< place.toNat)
    else roundDiv (num <<< (-place).toNat) den
  min (((place + 149).toNat <<< fractionBits) + significand) infinity

/-- The number of decimal digits, up to one. -/
def size (n : Nat) : Int := (Nat.toDigits 10 n).length

/-- The magnitude nearest to a decimal. Numbers far outside the range are told by their
size. -/
def ofScientific (digits : Nat) (exponent : Int) : Nat :=
  if digits = 0 then 0
  else if 50 < size digits + exponent then infinity
  else if size digits + exponent < -60 then 0
  else if 0 ≤ exponent then nearest (digits * Nat.pow 10 exponent.toNat) 1
  else nearest digits (Nat.pow 10 (-exponent).toNat)

def ofDecimal : Decimal → Single
  | .nan => nan
  | .infinite negative => ⟨negative, infinity⟩
  | .finite negative digits exponent => ⟨negative, ofScientific digits exponent⟩

def zero : Single := ⟨false, 0⟩

/-- Fourteen. -/
def fourteen : Single := ⟨false, 0x41600000⟩

/-- Whether a number is at least a positive one. -/
def atLeast (s limit : Single) : Bool :=
  !s.negative && !s.isNan && limit.magnitude ≤ s.magnitude

end Single
end MailSync.Number
