import MailSync.Text.Numeral
import MailSync.Text.Utf8

/-!
# Hexadecimal text

Octets written as two hexadecimal digits each. Writing uses lower case; reading takes both.
-/
namespace MailSync.Text

def hexDigit? (c : Char) : Option Nat :=
  if '0' ≤ c ∧ c ≤ '9' then some (c.toNat - '0'.toNat)
  else if 'a' ≤ c ∧ c ≤ 'f' then some (c.toNat - 'a'.toNat + 10)
  else if 'A' ≤ c ∧ c ≤ 'F' then some (c.toNat - 'A'.toNat + 10)
  else none

/-- The value of a numeral. Characters that are no digits count as zeros. -/
def hexValue (s : String) : Nat := s.toList.foldl (fun n c => n * 16 + (hexDigit? c).getD 0) 0

def hex (bs : Bytes) : String := String.join (bs.map hexByte)

/-- Reads pairs of digits, in front of octets already read, given backwards. -/
def unhexFrom : Bytes → List Char → Option Bytes
  | read, [] => some read.reverse
  | _, [_] => none
  | read, a :: b :: cs =>
    match hexDigit? a, hexDigit? b with
    | some x, some y => unhexFrom (UInt8.ofNat (x * 16 + y) :: read) cs
    | _, _ => none

def unhex? (s : String) : Option Bytes := unhexFrom [] s.toList

end MailSync.Text
