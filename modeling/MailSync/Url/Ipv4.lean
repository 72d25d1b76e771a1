import MailSync.Text.Hex

/-!
# IPv4 addresses

A host whose last part is a number is an address of four octets. Its parts are decimal, octal
behind a zero, or hexadecimal behind 0x; the last one fills the octets that the others leave.
-/
namespace MailSync.Url.Ipv4

/-- A numeral in a base. No digits at all mean zero. -/
def numeral? (base : Nat) (cs : List Char) : Option Nat :=
  cs.foldlM (fun n c => do
    let digit ← Text.hexDigit? c
    if digit < base then some (n * base + digit) else none) 0

def number? : List Char → Option Nat
  | [] => none
  | '0' :: 'x' :: cs => numeral? 16 cs
  | '0' :: 'X' :: cs => numeral? 16 cs
  | ['0'] => some 0
  | '0' :: cs => numeral? 8 cs
  | cs => numeral? 10 cs

/-- The parts between the dots. A dot at the end adds none. -/
def parts (host : String) : List String :=
  let all := host.splitOn "."
  if all.getLast? = some "" then all.dropLast else all

/-- Whether a host means an address. -/
def isMeant (host : String) : Bool :=
  match (parts host).getLast? with
  | none => false
  | some last =>
    (last ≠ "" && last.toList.all Char.isDigit) || (number? last.toList).isSome

/-- The value of as many octets as are left. Each part but the last is one octet; the last one
fills the others, of which there must be one at least. -/
def value? : Nat → List Nat → Option Nat
  | 0, _ => none
  | _ + 1, [] => none
  | left + 1, [last] => if last < Nat.pow 256 (left + 1) then some last else none
  | left + 1, n :: rest => do
    let below ← value? left rest
    if n < 256 then some (n * Nat.pow 256 left + below) else none

def address? (host : String) : Option Nat := do
  value? 4 (← (parts host).mapM fun part => number? part.toList)

def text (address : Nat) : String :=
  ".".intercalate ([3, 2, 1, 0].map fun i => toString ((address >>> (8 * i)) % 256))

end MailSync.Url.Ipv4
