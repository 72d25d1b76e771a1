import MailSync.Wbxml.Error

/-!
# Multi-byte integers

Numbers of 32 bits in groups of seven, the most significant group first; the top bit of a
byte says that another follows. Reading takes at most five bytes and accepts zero groups in
front; writing uses as few groups as it can.
-/
namespace MailSync.Wbxml.MultiByte

/-- Puts the groups above the last one in front of `tail`, each marked as continued. -/
def higher : Nat → UInt32 → Bytes → Bytes
  | 0, _, tail => tail
  | n + 1, v, tail =>
    if v = 0 then tail else higher n (v >>> 7) (((v &&& 0x7F).toUInt8 ||| 0x80) :: tail)

def write (v : UInt32) : Bytes := higher 4 (v >>> 7) [(v &&& 0x7F).toUInt8]

/-- The largest value that can still be shifted by one group. -/
def shiftable : UInt32 := 0x1FFFFFF

def readGroups : Nat → UInt32 → Bytes → Except Error (UInt32 × Bytes)
  | 0, _, _ => .error .integerOverflow
  | _ + 1, _, [] => .error .unexpectedEnd
  | n + 1, v, b :: rest =>
    if v > shiftable then .error .integerOverflow
    else
      let w := v <<< 7 ||| (b &&& 0x7F).toUInt32
      if b &&& 0x80 = 0 then .ok (w, rest) else readGroups n w rest

/-- Reads a number and returns the bytes behind it. -/
def read (bs : Bytes) : Except Error (UInt32 × Bytes) := readGroups 5 0 bs

end MailSync.Wbxml.MultiByte
