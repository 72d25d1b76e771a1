import MailSync.Json.Shape
import MailSync.Text.Hex

/-!
# JSON strings

A character beyond the Basic Multilingual Plane may be escaped as two halves; a half alone is
refused, except where the string is read over.
-/
namespace MailSync.Json

/-- Four hexadecimal digits. The text ends too soon if it is shorter than four octets. -/
def hexFour : List Char → Except Fault (Nat × List Char)
  | cs =>
    let digits := cs.take 4
    if digits.foldl (fun n c => n + c.utf8Size) 0 < 4 then .error .unfinished
    else
      match digits.mapM Text.hexDigit?, digits.length with
      | some ds, 4 => .ok (ds.foldl (fun n d => n * 16 + d) 0, cs.drop 4)
      | _, _ => .error .grammar

def expect (c : Char) : List Char → Except Fault (Unit × List Char)
  | [] => .error .unfinished
  | d :: cs => if d = c then .ok ((), cs) else .error .grammar

/-- The number behind an escape. Where the text is kept, the first half of a pair needs its
second. -/
def escapedNumber (kept : Bool) (cs : List Char) : Except Fault (Char × List Char) := do
  let (high, cs) ← hexFour cs
  if ¬kept then .ok (Char.ofNat high, cs)
  else if 0xDC00 ≤ high ∧ high ≤ 0xDFFF then .error .grammar
  else if 0xD800 ≤ high ∧ high ≤ 0xDBFF then
    let ((), cs) ← expect '\\' cs
    let ((), cs) ← expect 'u' cs
    let (low, cs) ← hexFour cs
    if 0xDC00 ≤ low ∧ low ≤ 0xDFFF then
      .ok (Char.ofNat (0x10000 + (high - 0xD800) * 0x400 + (low - 0xDC00)), cs)
    else .error .grammar
  else .ok (Char.ofNat high, cs)

/-- The character behind a backslash. -/
def escaped (kept : Bool) : List Char → Except Fault (Char × List Char)
  | [] => .error .unfinished
  | c :: cs =>
    if c = '"' ∨ c = '\\' ∨ c = '/' then .ok (c, cs)
    else if c = 'b' then .ok (Char.ofNat 8, cs)
    else if c = 'f' then .ok (Char.ofNat 12, cs)
    else if c = 'n' then .ok ('\n', cs)
    else if c = 'r' then .ok ('\r', cs)
    else if c = 't' then .ok ('\t', cs)
    else if c = 'u' then escapedNumber kept cs
    else .error .grammar

/-- The rest of a string behind what was read of it, given backwards. The fuel bounds the
number of characters. -/
def stringFrom (kept : Bool) : Nat → List Char → List Char → Except Fault (String × List Char)
  | 0, _, _ => .error .grammar
  | _ + 1, _, [] => .error .unfinished
  | fuel + 1, read, c :: cs =>
    if c = '"' then .ok (String.ofList read.reverse, cs)
    else if c = '\\' then
      match escaped kept cs with
      | .ok (e, cs) => stringFrom kept fuel (e :: read) cs
      | .error f => .error f
    else if c.toNat < 0x20 then .error .grammar
    else stringFrom kept fuel (c :: read) cs

/-- A string behind its opening quote. -/
def readString (kept : Bool) (cs : List Char) : Except Fault (String × List Char) :=
  stringFrom kept (cs.length + 1) [] cs

end MailSync.Json
