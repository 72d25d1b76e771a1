/-!
# Punycode

Text beyond ASCII in ASCII letters: the ASCII characters first, then, behind a hyphen, where
each of the others goes, in the order of their numbers. Distances are written in digits of
base 36 whose weights adapt to the distances seen so far.
-/
namespace MailSync.Url.Punycode

def digitChar (d : Nat) : Char :=
  if d < 26 then Char.ofNat ('a'.toNat + d) else Char.ofNat ('0'.toNat + (d - 26))

/-- The value of a digit, in lower case. -/
def digit? (c : Char) : Option Nat :=
  if 'a' ≤ c ∧ c ≤ 'z' then some (c.toNat - 'a'.toNat)
  else if '0' ≤ c ∧ c ≤ '9' then some (c.toNat - '0'.toNat + 26)
  else none

/-- The least value of a digit that more digits follow. `k` is 36 for the first digit and
grows by as much for each. -/
def threshold (k bias : Nat) : Nat :=
  if k ≤ bias then 1 else if bias + 26 ≤ k then 26 else k - bias

theorem threshold_pos (k bias : Nat) : 1 ≤ threshold k bias := by
  unfold threshold
  split
  · exact Nat.le_refl 1
  · split <;> omega

/-- Divides by 35 while a number is large, and counts. -/
def shrink (delta count : Nat) : Nat × Nat :=
  if 455 < delta then shrink (delta / 35) (count + 1) else (delta, count)
termination_by delta
decreasing_by omega

/-- The bias after a distance, with so many characters in place. -/
def adapt (delta count : Nat) (isFirst : Bool) : Nat :=
  let delta := if isFirst then delta / 700 else delta / 2
  let (delta, steps) := shrink (delta + delta / count) 0
  36 * steps + 36 * delta / (delta + 38)

/-- The digits of a distance. -/
def digits (bias k distance : Nat) : List Char :=
  let t := threshold k bias
  if distance < t then [digitChar distance]
  else digitChar (t + (distance - t) % (36 - t)) ::
    digits bias (k + 36) ((distance - t) / (36 - t))
termination_by distance
decreasing_by
  have h := threshold_pos k bias
  have := Nat.div_le_self (distance - threshold k bias) (36 - threshold k bias)
  omega

structure Writing where
  written : List Char
  distance : Nat
  bias : Nat
  /-- Characters in place. -/
  count : Nat
  isFirst : Bool

/-- Passes one character of the text while those of a number are put in place. -/
def Writing.pass (w : Writing) (n : Nat) (c : Char) : Writing :=
  if c.toNat < n then { w with distance := w.distance + 1 }
  else if c.toNat = n then
    { written := w.written ++ digits w.bias 36 w.distance
      distance := 0
      bias := adapt w.distance (w.count + 1) w.isFirst
      count := w.count + 1
      isFirst := false }
  else w

/-- Puts the characters of each number in place, in turn. -/
def encodeFrom (text : List Char) : List Nat → Nat → Writing → List Char
  | [], _, w => w.written
  | m :: rest, n, w =>
    let w := { w with distance := w.distance + (m - n) * (w.count + 1) }
    let w := text.foldl (fun w c => w.pass m c) w
    encodeFrom text rest (m + 1) { w with distance := w.distance + 1 }

/-- Numbers in order, each once. -/
def inOrder (ns : List Nat) : List Nat := (ns.mergeSort fun a b => a ≤ b).eraseDups

def isBasic (c : Char) : Bool := c.toNat < 128

def encode (text : List Char) : List Char :=
  let basic := text.filter isBasic
  let others := inOrder ((text.filter fun c => !isBasic c).map Char.toNat)
  basic ++ (if basic.isEmpty then [] else ['-']) ++
    encodeFrom text others 128 ⟨[], 0, 72, basic.length, true⟩

structure Reading where
  text : List Char
  /-- The number of the next character. -/
  number : Nat
  /-- The place where the distance began. -/
  start : Nat
  place : Nat
  weight : Nat
  k : Nat
  bias : Nat

/-- Takes one digit. Places and weights must fit 32 bits. -/
def Reading.take? (r : Reading) (c : Char) : Option Reading := do
  let d ← digit? c
  let place := r.place + d * r.weight
  let t := threshold r.k r.bias
  if UInt32.size ≤ place then none
  else if d < t then
    let count := r.text.length + 1
    let number := r.number + place / count
    let at_ := place % count
    if number.isValidChar then
      some {
        text := r.text.take at_ ++ Char.ofNat number :: r.text.drop at_
        number
        start := at_ + 1
        place := at_ + 1
        weight := 1
        k := 36
        bias := adapt (place - r.start) count (r.start = 0) }
    else none
  else if UInt32.size ≤ r.weight * (36 - t) then none
  else some { r with place, weight := r.weight * (36 - t), k := r.k + 36 }

def decode? (code : List Char) : Option (List Char) := do
  let behind := (code.reverse.takeWhile (· ≠ '-')).reverse
  let basic := code.take (code.length - behind.length - 1)
  let digits := if basic.isEmpty then code else behind
  let r ← digits.foldlM Reading.take? ⟨basic, 128, 0, 0, 1, 36, 72⟩
  if r.weight = 1 then some r.text else none

end MailSync.Url.Punycode
