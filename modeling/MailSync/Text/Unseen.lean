import MailSync.Text.Mark
import MailSync.Text.Unprinted

/-!
# Characters without a shape of their own

The characters that text in quotes gives by number: those that are not printed, the marks that
join the character before them, and fillers, which are letters without a form. ASCII has its
own rule beside the quotes.
-/
namespace MailSync.Text

/-- Marks that take room and yet never stand apart from their letter. -/
def joiningMarks : List (Nat × Nat) := [
  (0x9BE, 0x9BE), (0x9D7, 0x9D7), (0xB3E, 0xB3E), (0xB57, 0xB57), (0xBBE, 0xBBE), (0xBD7, 0xBD7),
  (0xCC0, 0xCC0), (0xCC2, 0xCC2), (0xCC7, 0xCC8), (0xCCA, 0xCCB), (0xCD5, 0xCD6), (0xD3E, 0xD3E),
  (0xD57, 0xD57), (0xDCF, 0xDCF), (0xDDF, 0xDDF), (0x1715, 0x1715), (0x1734, 0x1734),
  (0x1B35, 0x1B35), (0x1B3A, 0x1B3B), (0x1B3D, 0x1B3D), (0x1B43, 0x1B44), (0x1BAA, 0x1BAA),
  (0x1BF2, 0x1BF3), (0x302E, 0x302F), (0xA953, 0xA953), (0xA9C0, 0xA9C0), (0x111C0, 0x111C0),
  (0x11235, 0x11235), (0x1133E, 0x1133E), (0x1134D, 0x1134D), (0x11357, 0x11357),
  (0x113B8, 0x113B8), (0x113C2, 0x113C2), (0x113C5, 0x113C5), (0x113C7, 0x113C9),
  (0x113CF, 0x113CF), (0x114B0, 0x114B0), (0x114BD, 0x114BD), (0x115AF, 0x115AF),
  (0x116B6, 0x116B6), (0x11930, 0x11930), (0x1193D, 0x1193D), (0x11F41, 0x11F41),
  (0x16FF0, 0x16FF1), (0x1D165, 0x1D166), (0x1D16D, 0x1D172)]

/-- Letters that only fill a place: those of the Korean alphabet, in both widths. -/
def fillers : List (Nat × Nat) :=
  [(0x115F, 0x1160), (0x3164, 0x3164), (0xFFA0, 0xFFA0)]

/-- Characters that text in quotes gives by number. -/
def isUnseen (c : Char) : Bool :=
  let n := c.toNat
  if n < 0x7F then false
  else isUnprinted c || isNonspacing c || inRanges joiningMarks n || inRanges fillers n

theorem isUnseen_ascii {c : Char} (h : c.toNat < 0x7F) : isUnseen c = false := by
  simp [isUnseen, h]

theorem isUnseen_of_isNonspacing {c : Char} (h : 0x7F ≤ c.toNat) (hc : isNonspacing c = true) :
    isUnseen c = true := by
  simp [isUnseen, Nat.not_lt.mpr h, hc]

end MailSync.Text
