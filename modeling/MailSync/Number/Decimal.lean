import MailSync.Text.Numeral

/-!
# Decimal numbers

Numbers written in decimal digits with an optional point and an optional exponent, and the
names of infinity and of no number at all, in any case.
-/
namespace MailSync.Number

/-- A written number. A finite one is its digits times a power of ten. -/
inductive Decimal where
  | nan
  | infinite (negative : Bool)
  | finite (negative : Bool) (digits : Nat) (exponent : Int)
deriving Repr, DecidableEq

namespace Decimal

/-- The sign in front, and what follows it. -/
def sign : List Char → Bool × List Char
  | '-' :: cs => (true, cs)
  | '+' :: cs => (false, cs)
  | cs => (false, cs)

/-- The exponent behind a number: nothing at all, or the letter E with an integer. -/
def exponent? : List Char → Option Int
  | [] => some 0
  | c :: cs =>
    if c = 'e' ∨ c = 'E' then
      let (negative, digits) := sign cs
      (Text.digitsValue? digits).map fun n => if negative then -(n : Int) else n
    else none

/-- Digits with at most one point among them, at least one digit in all. -/
def unsigned? (negative : Bool) (cs : List Char) : Option Decimal := do
  let whole := cs.takeWhile Char.isDigit
  let rest := cs.dropWhile Char.isDigit
  let (places, rest) := match rest with
    | '.' :: cs => (cs.takeWhile Char.isDigit, cs.dropWhile Char.isDigit)
    | cs => ([], cs)
  let exponent ← exponent? rest
  let digits := whole ++ places
  if digits = [] then none
  else some (.finite negative (Nat.ofDigitChars 10 digits 0) (exponent - places.length))

def read? (cs : List Char) : Option Decimal :=
  let (negative, cs) := sign cs
  let name := String.ofList (cs.map Char.toLower)
  if name = "nan" then some .nan
  else if name = "inf" ∨ name = "infinity" then some (.infinite negative)
  else unsigned? negative cs

end Decimal
end MailSync.Number
