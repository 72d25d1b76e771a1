/-!
# UTF-8

Strict and lenient reading of byte strings as text. Strict reading is the validity test of
core; lenient reading puts U+FFFD in place of each longest piece that begins a character
and cannot be finished.
-/
namespace MailSync

/-- Octets, in order. -/
abbrev Bytes := List UInt8

namespace Text

def toBytes (s : String) : Bytes := s.toByteArray.data.toList

def ofBytes? (bs : Bytes) : Option String := String.fromUTF8? ⟨bs.toArray⟩

def replacement : Char := Char.ofNat 0xFFFD

def isContinuation (b : UInt8) : Bool := 0x80 ≤ b && b ≤ 0xBF

/-- For a leading byte: its payload, how many bytes follow, and the range of the first of
them, which is narrower where a wider one would admit an overlong form, a surrogate or a
number above U+10FFFF. -/
def leading? (b : UInt8) : Option (Nat × Nat × UInt8 × UInt8) :=
  if 0xC2 ≤ b && b ≤ 0xDF then some (b.toNat - 0xC0, 1, 0x80, 0xBF)
  else if b == 0xE0 then some (0, 2, 0xA0, 0xBF)
  else if b == 0xED then some (0xD, 2, 0x80, 0x9F)
  else if 0xE1 ≤ b && b ≤ 0xEF then some (b.toNat - 0xE0, 2, 0x80, 0xBF)
  else if b == 0xF0 then some (0, 3, 0x90, 0xBF)
  else if 0xF1 ≤ b && b ≤ 0xF3 then some (b.toNat - 0xF0, 3, 0x80, 0xBF)
  else if b == 0xF4 then some (4, 3, 0x80, 0x8F)
  else none

/-- Reads the bytes that a character still needs. The count says how many bytes of the
input belong to the piece, finished or not. -/
def follow (value : Nat) : Nat → UInt8 → UInt8 → Bytes → Char × Nat
  | 0, _, _, _ => (Char.ofNat value, 0)
  | _ + 1, _, _, [] => (replacement, 0)
  | n + 1, low, high, b :: rest =>
    if low ≤ b && b ≤ high then
      let (c, used) := follow (value * 64 + (b.toNat - 0x80)) n 0x80 0xBF rest
      (c, used + 1)
    else (replacement, 0)

/-- The characters of a byte string, read leniently. `skip` counts bytes that the last
character has already taken. -/
def lenientFrom : Nat → Bytes → List Char
  | _, [] => []
  | skip + 1, _ :: rest => lenientFrom skip rest
  | 0, b :: rest =>
    if b < 0x80 then Char.ofNat b.toNat :: lenientFrom 0 rest
    else match leading? b with
      | none => replacement :: lenientFrom 0 rest
      | some (value, n, low, high) =>
        let (c, used) := follow value n low high rest
        c :: lenientFrom used rest

def lenient (bs : Bytes) : List Char := lenientFrom 0 bs

end Text
end MailSync
