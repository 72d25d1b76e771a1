import MailSync.Calendar.Instant
import MailSync.Text.Blank
import MailSync.Text.Numeral

/-!
# Dates and times as text

The RFC 3339 form of an instant, read and written, and the date-only form. Reading takes a
blank or either case of the letter T between date and time, either case of Z, a fraction of
any length of which nine digits count, and the minus sign U+2212 in the offset. Years
outside 0 to 9999 are written with a sign; such a form is not read back.
-/
namespace MailSync.Rfc3339

/-- The value of exactly `n` digits in front, and what follows them. -/
def digits? (n : Nat) (cs : List Char) : Option (Nat × List Char) :=
  if n ≤ cs.length ∧ (cs.take n).all Char.isDigit then
    some (Nat.ofDigitChars 10 (cs.take n) 0, cs.drop n)
  else none

/-- The value of the digits in front, at least one and at most `n`. -/
def digitsUpTo? (n : Nat) (cs : List Char) : Option (Nat × List Char) :=
  let ds := (cs.take n).takeWhile Char.isDigit
  if ds = [] then none else some (Nat.ofDigitChars 10 ds 0, cs.drop ds.length)

def expect? (c : Char) : List Char → Option (List Char)
  | [] => none
  | d :: cs => if d = c then some cs else none

/-- Nanoseconds of a fraction, if one follows. -/
def fraction? : List Char → Option (Nat × List Char)
  | '.' :: cs =>
    let ds := cs.takeWhile Char.isDigit
    if ds = [] then none
    else
      let kept := ds.take 9
      some (Nat.ofDigitChars 10 kept 0 * Nat.pow 10 (9 - kept.length), cs.dropWhile Char.isDigit)
  | cs => some (0, cs)

/-- Hours and minutes behind the sign of an offset, in seconds. -/
def hoursMinutes? (cs : List Char) : Option (Nat × List Char) := do
  let (hours, cs) ← digits? 2 cs
  let cs ← expect? ':' cs
  let (minutes, cs) ← digits? 2 cs
  if hours < 24 ∧ minutes < 60 then some (hours * 3600 + minutes * 60, cs) else none

def offset? : List Char → Option (Int × List Char)
  | [] => none
  | c :: cs =>
    if c = 'Z' ∨ c = 'z' then some (0, cs)
    else if c = '+' then (hoursMinutes? cs).map fun (s, cs) => ((s : Int), cs)
    else if c = '-' ∨ c = Char.ofNat 0x2212 then
      (hoursMinutes? cs).map fun (s, cs) => (-(s : Int), cs)
    else none

def separator? : List Char → Option (List Char)
  | [] => none
  | c :: cs => if c = 'T' ∨ c = 't' ∨ c = ' ' then some cs else none

/-- Reads an instant. Second 60 is taken in any minute. -/
def read? (cs : List Char) : Option Instant := do
  let (year, cs) ← digits? 4 cs
  let cs ← expect? '-' cs
  let (month, cs) ← digits? 2 cs
  let cs ← expect? '-' cs
  let (day, cs) ← digits? 2 cs
  let cs ← separator? cs
  let (hour, cs) ← digits? 2 cs
  let cs ← expect? ':' cs
  let (minute, cs) ← digits? 2 cs
  let cs ← expect? ':' cs
  let (second, cs) ← digits? 2 cs
  let (nano, cs) ← fraction? cs
  let (offset, cs) ← offset? cs
  let date ← Date.ofNumbers? year month day
  if cs = [] ∧ hour < 24 ∧ minute < 60 ∧ second ≤ 60 then
    let clock := hour * 3600 + minute * 60
    if second = 60 then some (.ofLocal date (clock + 59) (nano + Instant.leap) offset)
    else some (.ofLocal date (clock + second) nano offset)
  else none

/-- The year of a date: with a sign it may have any number of digits, else up to four. -/
def year? : List Char → Option (Int × List Char)
  | '-' :: cs => (digitsUpTo? cs.length cs).map fun (n, cs) => (-(n : Int), cs)
  | '+' :: cs => (digitsUpTo? cs.length cs).map fun (n, cs) => ((n : Int), cs)
  | cs => (digitsUpTo? 4 cs).map fun (n, cs) => ((n : Int), cs)

/-- Reads a date alone. Blanks may stand before each number, and month and day may have one
digit. -/
def readDate? (cs : List Char) : Option Date := do
  let (year, cs) ← year? (cs.dropWhile Text.isBlank)
  let cs ← expect? '-' cs
  let (month, cs) ← digitsUpTo? 2 (cs.dropWhile Text.isBlank)
  let cs ← expect? '-' cs
  let (day, cs) ← digitsUpTo? 2 (cs.dropWhile Text.isBlank)
  if cs = [] then Date.ofNumbers? year month day else none

def yearText (year : Int) : String :=
  if 0 ≤ year ∧ year ≤ 9999 then Text.padded 4 year.toNat
  else if year < 0 then "-" ++ Text.padded 4 year.natAbs
  else "+" ++ Text.padded 4 year.toNat

def dateText (d : Date) : String :=
  yearText d.year ++ "-" ++ Text.padded 2 d.month ++ "-" ++ Text.padded 2 d.day

/-- Hours, minutes and seconds. A leap second is written as second 60. -/
def clockText (i : Instant) : String :=
  let leap := if Instant.leap ≤ i.nano then 1 else 0
  Text.padded 2 (i.second / 3600) ++ ":" ++ Text.padded 2 (i.second / 60 % 60) ++ ":" ++
    Text.padded 2 (i.second % 60 + leap)

/-- No fraction, or the shortest of three, six and nine digits that loses nothing. -/
def fractionText (i : Instant) : String :=
  let nano := i.nano % Instant.leap
  if nano = 0 then ""
  else if nano % 1000000 = 0 then "." ++ Text.padded 3 (nano / 1000000)
  else if nano % 1000 = 0 then "." ++ Text.padded 6 (nano / 1000)
  else "." ++ Text.padded 9 nano

/-- The form kept in storage: fraction as needed, offset in digits. -/
def write (i : Instant) : String :=
  dateText i.date ++ "T" ++ clockText i ++ fractionText i ++ "+00:00"

/-- The form sent to a peer: milliseconds, offset Z. -/
def writeMillis (i : Instant) : String :=
  dateText i.date ++ "T" ++ clockText i ++ "." ++
    Text.padded 3 (i.nano % Instant.leap / 1000000) ++ "Z"

end MailSync.Rfc3339
