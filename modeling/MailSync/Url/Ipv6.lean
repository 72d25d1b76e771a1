import MailSync.Text.Hex
import MailSync.Text.Quoted

/-!
# IPv6 addresses

Eight pieces of up to four hexadecimal digits, with a double colon for pieces of zero left
out. The last two pieces may be written as an IPv4 address. An address is written without
leading zeros, and its longest run of two or more zero pieces, the first of equals, is left
out.
-/
namespace MailSync.Url.Ipv6

/-- Pieces read so far, and how many of them stood in front of the double colon. The colon
itself counts as a piece of zero. -/
structure Pieces where
  read : List Nat
  gap : Option Nat
deriving Repr, DecidableEq

namespace Pieces

def add (p : Pieces) (n : Nat) : Pieces := { p with read := p.read ++ [n] }

/-- The eight pieces, with the gap filled. -/
def all? (p : Pieces) : Option (List Nat) :=
  match p.gap with
  | none => if p.read.length = 8 then some p.read else none
  | some at_ =>
    if p.read.length ≤ 8 then
      some (p.read.take at_ ++ List.replicate (8 - p.read.length) 0 ++ p.read.drop at_)
    else none

end Pieces

/-- One octet in decimal, without a leading zero. -/
def octet? (cs : List Char) : Option Nat := do
  let n ← Text.digitsValue? cs
  if n < 256 ∧ (cs.length = 1 ∨ cs.head? ≠ some '0') then some n else none

/-- The two pieces that an IPv4 address stands for. -/
def embedded? (cs : List Char) : Option (List Nat) := do
  match ← ((String.ofList cs).splitOn ".").mapM fun part => octet? part.toList with
  | [a, b, c, d] => some [a * 256 + b, c * 256 + d]
  | _ => none

def hexValue (cs : List Char) : Nat :=
  cs.foldl (fun n c => n * 16 + (Text.hexDigit? c).getD 0) 0

/-- Reads pieces, as many as there is fuel for. -/
def readFrom : Nat → Pieces → List Char → Option Pieces
  | _, p, [] => some p
  | 0, _, _ => none
  | fuel + 1, p, ':' :: cs =>
    if p.gap.isSome then none
    else readFrom fuel { p.add 0 with gap := some p.read.length } cs
  | fuel + 1, p, cs =>
    let digits := (cs.take 4).takeWhile fun c => (Text.hexDigit? c).isSome
    match cs.drop digits.length with
    | [] => some (p.add (hexValue digits))
    | ':' :: d :: rest => readFrom fuel (p.add (hexValue digits)) (d :: rest)
    | '.' :: _ =>
      if digits = [] ∨ 6 < p.read.length then none
      else (embedded? cs).map fun pieces => { p with read := p.read ++ pieces }
    | _ => none

/-- Reads an address, as it stands between brackets. -/
def read? (cs : List Char) : Option (List Nat) := do
  let p ← match cs with
    | ':' :: ':' :: rest => readFrom 8 ⟨[0], some 0⟩ rest
    | ':' :: _ => none
    | cs => readFrom 8 ⟨[], none⟩ cs
  p.all?

/-- The length of the run of zeros in front. -/
def zeros (pieces : List Nat) : Nat := (pieces.takeWhile (· = 0)).length

/-- Where the longest run of zeros begins, and its length. -/
def longest : List Nat → Nat × Nat
  | [] => (0, 0)
  | n :: rest =>
    let (start, length) := longest rest
    let here := zeros (n :: rest)
    if length ≤ here then (0, here) else (start + 1, length)

def piecesText (pieces : List Nat) : String := ":".intercalate (pieces.map Text.hexNumber)

def text (pieces : List Nat) : String :=
  let (start, length) := longest pieces
  if length < 2 then piecesText pieces
  else piecesText (pieces.take start) ++ "::" ++ piecesText (pieces.drop (start + length))

end MailSync.Url.Ipv6
