import MailSync.Text.Numeral
import MailSync.Text.Unseen

/-!
# Quoted text in messages

Text as messages show it: in double quotes, with quotes and backslashes escaped, and
characters that cannot be seen by their number.
-/
namespace MailSync.Text

/-- A number in lower-case hexadecimal. -/
def hexNumber (n : Nat) : String := String.ofList (Nat.toDigits 16 n)

def quoteChar (c : Char) : String :=
  if c = '"' then "\\\""
  else if c = '\\' then "\\\\"
  else if c = '\n' then "\\n"
  else if c = '\r' then "\\r"
  else if c = '\t' then "\\t"
  else if c = Char.ofNat 0 then "\\0"
  else if c.toNat < 0x20 ∨ isUnseen c then
    "\\u\x7b" ++ hexNumber c.toNat ++ "\x7d"
  else String.singleton c

def quote (s : String) : String := "\"" ++ String.join (s.toList.map quoteChar) ++ "\""

end MailSync.Text
