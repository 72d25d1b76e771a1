import MailSync.Text.Hex

/-!
# Random ids

An id of 32 hexadecimal digits made of 16 random octets. Two places state that it is random:
the digit of the version and the top bits of the variant.
-/
namespace MailSync.Text

/-- Marks octets, by their place, as those of a random id. -/
def markRandom (place : Nat) (b : UInt8) : UInt8 :=
  if place = 6 then (b &&& 0x0F) ||| 0x40
  else if place = 8 then (b &&& 0x3F) ||| 0x80
  else b

def uuid (random : Bytes) : String := hex (random.mapIdx markRandom)

end MailSync.Text
