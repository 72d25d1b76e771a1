import MailSync.Text.Utf8

/-!
# Base64

Octets in groups of three as four characters each. A last group that is short is filled up
with equals signs.
-/
namespace MailSync.Text

/-- The character for a number below 64. -/
def base64Char (n : Nat) : Char :=
  if n < 26 then Char.ofNat ('A'.toNat + n)
  else if n < 52 then Char.ofNat ('a'.toNat + (n - 26))
  else if n < 62 then Char.ofNat ('0'.toNat + (n - 52))
  else if n = 62 then '+'
  else '/'

/-- A group of one to three octets. -/
def base64Group (a : UInt8) (b c : Option UInt8) : List Char :=
  let octet (x : Option UInt8) : Nat := (x.getD 0).toNat
  let n := (a.toNat * 256 + octet b) * 256 + octet c
  [base64Char (n >>> 18), base64Char ((n >>> 12) % 64),
    if b.isNone then '=' else base64Char ((n >>> 6) % 64),
    if c.isNone then '=' else base64Char (n % 64)]

def base64Chars : Bytes → List Char
  | [] => []
  | [a] => base64Group a none none
  | [a, b] => base64Group a (some b) none
  | a :: b :: c :: rest => base64Group a (some b) (some c) ++ base64Chars rest

def base64 (bs : Bytes) : String := String.ofList (base64Chars bs)

theorem length_base64Chars (bs : Bytes) : (base64Chars bs).length = (bs.length + 2) / 3 * 4 := by
  fun_induction base64Chars bs with
  | case1 => rfl
  | case2 => simp [base64Group]
  | case3 => simp [base64Group]
  | case4 a b c rest ih =>
    simp only [List.length_append, base64Group, List.length_cons, List.length_nil, ih]
    omega

end MailSync.Text
