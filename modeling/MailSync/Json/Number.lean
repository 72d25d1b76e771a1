import MailSync.Json.Shape

/-!
# JSON numbers

The digits are kept while they fit 64 bits; later ones only move the point. Without a point
and an exponent the number stays an integer if it fits 64 bits. Otherwise the kept digits are
rounded to a floating-point number and then scaled by a power of ten, which rounds once more.
-/
namespace MailSync.Json

/-- The digits kept of a number, and the power of ten that they are scaled by. -/
structure Kept where
  digits : Nat
  exponent : Int
deriving Repr, DecidableEq

def digitValue (c : Char) : Nat := c.toNat - '0'.toNat

/-- Whether one more digit fits. -/
def Kept.takes (k : Kept) (c : Char) : Bool := k.digits * 10 + digitValue c < UInt64.size

/-- The digits in front of the point. The flag tells that none was dropped. -/
def wholePart : Kept → Bool → List Char → (Kept × Bool) × List Char
  | k, whole, [] => ((k, whole), [])
  | k, whole, c :: cs =>
    if c.isDigit then
      if whole && k.takes c then wholePart { k with digits := k.digits * 10 + digitValue c } true cs
      else wholePart { k with exponent := k.exponent + 1 } false cs
    else ((k, whole), c :: cs)

/-- The digits behind the point. Once one does not fit, all others are dropped. -/
def places : Kept → List Char → Kept × List Char
  | k, [] => (k, [])
  | k, c :: cs =>
    if c.isDigit then
      if k.takes c then places ⟨k.digits * 10 + digitValue c, k.exponent - 1⟩ cs
      else (k, cs.dropWhile Char.isDigit)
    else (k, c :: cs)

/-- The largest exponent that is taken as it is written. -/
def exponentLimit : Nat := 0x80000000

/-- An exponent behind its letter: its sign and its value. -/
def readExponent (cs : List Char) : Except Fault ((Bool × Nat) × List Char) :=
  let (negative, cs) := match cs with
    | '+' :: cs => (false, cs)
    | '-' :: cs => (true, cs)
    | cs => (false, cs)
  match cs with
  | [] => .error .unfinished
  | c :: _ =>
    if c.isDigit then
      .ok ((negative, Nat.ofDigitChars 10 (cs.takeWhile Char.isDigit) 0),
        cs.dropWhile Char.isDigit)
    else .error .grammar

/-- Scales by a power of ten. Powers beyond the range of floating-point numbers are taken in
steps. A result beyond the range is an error. -/
def scale : Nat → Float → Int → Except Fault Float
  | 0, x, _ => .ok x
  | fuel + 1, x, exponent =>
    if exponent.natAbs ≤ 308 then
      let power := Float.ofScientific 1 false exponent.natAbs
      if 0 ≤ exponent then
        if (x * power).isInf then .error .grammar else .ok (x * power)
      else .ok (x / power)
    else if x == 0.0 then .ok x
    else if 0 ≤ exponent then .error .grammar
    else scale fuel (x / Float.ofScientific 1 false 308) (exponent + 308)

def Kept.toFloat (k : Kept) (negative : Bool) : Except Fault Float := do
  let x ← scale 4 (UInt64.ofNat k.digits).toFloat k.exponent
  .ok (if negative then -x else x)

/-- A number with an exponent, given by its letter's rest. -/
def withExponent (k : Kept) (negative : Bool) (cs : List Char) :
    Except Fault (Json × List Char) := do
  let ((down, e), cs) ← readExponent cs
  if exponentLimit ≤ e then
    if k.digits ≠ 0 ∧ ¬down then .error .grammar
    else .ok (.float (if negative then -0.0 else 0.0), cs)
  else
    let exponent := if down then k.exponent - e else k.exponent + e
    .ok (.float (← Kept.toFloat ⟨k.digits, exponent⟩ negative), cs)

/-- An integer, unless it needs a sign that zero has not, or more than 64 bits. -/
def integerOf (k : Kept) (negative : Bool) : Except Fault Json :=
  if negative then
    if k.digits = 0 ∨ 0x8000000000000000 < k.digits then .float <$> k.toFloat true
    else .ok (.integer (-(k.digits : Int)))
  else .ok (.integer k.digits)

/-- What follows the digits in front of the point. -/
def afterWhole (k : Kept) (whole negative : Bool) : List Char → Except Fault (Json × List Char)
  | '.' :: cs =>
    match cs with
    | [] => .error .unfinished
    | c :: _ =>
      if c.isDigit then
        let (k, cs) := places k cs
        match cs with
        | 'e' :: cs | 'E' :: cs => withExponent k negative cs
        | cs => do .ok (.float (← k.toFloat negative), cs)
      else .error .grammar
  | 'e' :: cs | 'E' :: cs => withExponent k negative cs
  | cs => do
    if whole then .ok (← integerOf k negative, cs)
    else .ok (.float (← k.toFloat negative), cs)

/-- A number behind its sign. A zero in front stands alone. -/
def unsignedNumber (negative : Bool) : List Char → Except Fault (Json × List Char)
  | [] => .error .unfinished
  | '0' :: cs =>
    match cs with
    | c :: _ => if c.isDigit then .error .grammar else afterWhole ⟨0, 0⟩ true negative cs
    | [] => afterWhole ⟨0, 0⟩ true negative []
  | c :: cs =>
    if c.isDigit then
      let ((k, whole), cs) := wholePart ⟨0, 0⟩ true (c :: cs)
      afterWhole k whole negative cs
    else .error .grammar

/-- Reads over digits, at least one. -/
def overDigits : List Char → Option (List Char)
  | [] => none
  | c :: cs => if c.isDigit then some (cs.dropWhile Char.isDigit) else none

/-- Reads over the digits in front of the point. A zero in front stands alone. -/
def overWhole : List Char → Option (List Char)
  | '0' :: c :: cs => if c.isDigit then none else some (c :: cs)
  | cs => overDigits cs

def overPlaces : List Char → Option (List Char)
  | '.' :: cs => overDigits cs
  | cs => some cs

def overExponent : List Char → Option (List Char)
  | [] => some []
  | c :: cs =>
    if c = 'e' ∨ c = 'E' then
      match cs with
      | '+' :: cs | '-' :: cs => overDigits cs
      | cs => overDigits cs
    else some (c :: cs)

/-- Reads over a number. It may lie beyond the range of floating-point numbers. -/
def overNumber? (cs : List Char) : Option (List Char) := do
  let unsigned := match cs with
    | '-' :: cs => cs
    | cs => cs
  overExponent (← overPlaces (← overWhole unsigned))

def readNumber : List Char → Except Fault (Json × List Char)
  | '-' :: cs => unsignedNumber true cs
  | cs => unsignedNumber false cs

end MailSync.Json
