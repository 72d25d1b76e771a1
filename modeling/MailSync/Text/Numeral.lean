/-!
# Decimal numerals

Unsigned decimal numerals as fields and settings carry them: ASCII digits, one optional
plus sign in front, a limit on the value. Leading zeros are allowed.
-/
namespace MailSync.Text

/-- The value of a non-empty run of ASCII digits. -/
def digitsValue? (cs : List Char) : Option Nat :=
  if cs ≠ [] ∧ cs.all Char.isDigit then some (Nat.ofDigitChars 10 cs 0) else none

/-- A numeral with an optional plus sign. -/
def natural? : List Char → Option Nat
  | '+' :: cs => digitsValue? cs
  | cs => digitsValue? cs

/-- A numeral below a limit. -/
def naturalBelow? (limit : Nat) (s : String) : Option Nat :=
  (natural? s.toList).filter (· < limit)

def uint16? (s : String) : Option UInt16 := (naturalBelow? UInt16.size s).map UInt16.ofNat

def uint32? (s : String) : Option UInt32 := (naturalBelow? UInt32.size s).map UInt32.ofNat

/-- Decimal digits of a number, padded with zeros in front up to a width. -/
def padded (width n : Nat) : String :=
  let digits := Nat.toDigits 10 n
  String.ofList (List.replicate (width - digits.length) '0' ++ digits)

/-- Two lower-case hexadecimal digits. -/
def hexByte (b : UInt8) : String :=
  String.ofList [Nat.digitChar (b.toNat / 16), Nat.digitChar (b.toNat % 16)]

end MailSync.Text
