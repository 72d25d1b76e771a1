import MailSync.Text.Direction
import MailSync.Text.Joining
import MailSync.Text.Unprinted
import MailSync.Url.Folding
import MailSync.Url.Punycode

/-!
# Labels of domains

The parts between the dots of a domain. A label beyond ASCII is written as punycode behind the
mark xn--. What may stand in a label does not depend on which of the two forms it is given in.
-/
namespace MailSync.Url

structure Label where
  /-- The characters that the label means. -/
  text : List Char
  ascii : List Char
deriving Repr, DecidableEq

namespace Label

/-- Printed characters that no domain has: signs that hold a full stop, and those that describe
or replace other characters. -/
def refused : List (Nat × Nat) := [
  (0x2024, 0x2026), (0x2488, 0x249B), (0x2FF0, 0x2FFF), (0x31EF, 0x31EF), (0x33C2, 0x33C2),
  (0x33C7, 0x33C7), (0x33D8, 0x33D8), (0xFE12, 0xFE12), (0xFE19, 0xFE19), (0xFE30, 0xFE30),
  (0xFE52, 0xFE52), (0xFFFC, 0xFFFD), (0x1F100, 0x1F100)]

/-- Characters newer than the printed ones, which domains have already. A script or a set of
signs that has not filled its place yet is given with all of it. -/
def newer : List (Nat × Nat) := [
  (0x558, 0x558), (0x5C8, 0x5C8), (0xB53, 0xB54), (0x1ADE, 0x1ADF), (0x1AEC, 0x1AEC),
  (0x208F, 0x208F), (0x209D, 0x209F), (0x20C2, 0x20C4), (0x2E5E, 0x2E60), (0xA7DD, 0xA7E2),
  (0xAB6C, 0xAB6C), (0x107BB, 0x107BB), (0x10EC8, 0x10EC9), (0x10ED9, 0x10ED9),
  (0x11B0A, 0x11B0A), (0x12475, 0x12475), (0x12550, 0x12686), (0x16D80, 0x16D9D),
  (0x16DA0, 0x16DA9), (0x18CD6, 0x18CD8), (0x18D1F, 0x18D1F), (0x18E00, 0x194FF),
  (0x1B125, 0x1B125), (0x1D250, 0x1D28F), (0x1DB00, 0x1DBFF), (0x1DF2B, 0x1DF30),
  (0x1F6D9, 0x1F6D9), (0x1F7DA, 0x1F7DB), (0x1FA8B, 0x1FA8D), (0x1FACB, 0x1FACB),
  (0x1FADD, 0x1FADD), (0x1FAEB, 0x1FAEB), (0x1FAF9, 0x1FAFA), (0x2B81E, 0x2B81E),
  (0x3D000, 0x3FC3F)]

def zeroWidthNonJoiner : Char := Char.ofNat 0x200C

/-- The signs that ask letters to join and not to join. -/
def isJoiner (c : Char) : Bool := c = Char.ofNat 0x200D || c = zeroWidthNonJoiner

/-- Whether a character cannot stand in a domain. -/
def isRefused (c : Char) : Bool :=
  if c.toNat < 0x80 then
    c.toNat ≤ 0x20 || c.toNat = 0x7F || "%#/:<>?@[\\]^|".toList.contains c
  else
    (Text.isUnprinted c && !Text.inRanges newer c.toNat && !isJoiner c) ||
      Text.inRanges refused c.toNat

/-- Whether a joiner has a reason to stand where it does, behind text that is given backwards.
It may follow a sign that takes a vowel away. Letters that would join may be kept apart. -/
def isJoinerAt (c : Char) (before after : List Char) : Bool :=
  match before with
  | [] => false
  | b :: _ =>
    Text.isVirama b || (c = zeroWidthNonJoiner && Text.reaches Text.joinsNext before &&
      Text.reaches Text.joinsPrevious after)

/-- Whether all joiners have a reason, behind text that is given backwards. -/
def hasJoinersFrom : List Char → List Char → Bool
  | _, [] => true
  | before, c :: cs =>
    (!isJoiner c || isJoinerAt c before cs) && hasJoinersFrom (c :: before) cs

/-- The most characters of a label that is not in ASCII. -/
def textLimit : Nat := 1000

/-- The most characters behind the mark. -/
def codeLimit : Nat := 2000

/-- Whether a label can mean these characters. -/
def isText (cs : List Char) : Bool :=
  !cs.any isRefused && !((cs.head?.map Text.isMark).getD false) && hasJoinersFrom [] cs &&
    (cs.all Punycode.isBasic || cs.length ≤ textLimit)

/-- What stands behind the mark, as characters. They must be in the one form that domains have
for them, and not all in ASCII. -/
def decode? (code : List Char) : Option (List Char) :=
  if code.all Punycode.isBasic ∧ code.length ≤ codeLimit ∧ code.getLast?.any (· ≠ '-') then
    (Punycode.decode? code).filter fun cs => Folding.foldText cs = cs
  else none

/-- The characters that a label means, which is in one form. -/
def meaning? : List Char → Option (List Char)
  | 'x' :: 'n' :: '-' :: '-' :: code => decode? code
  | cs => some cs

def encode (cs : List Char) : List Char :=
  if cs.all Punycode.isBasic then cs else "xn--".toList ++ Punycode.encode cs

/-- A label from its text in one form. -/
def ofText? (cs : List Char) : Option Label :=
  ((meaning? cs).filter isText).map fun text => ⟨text, encode text⟩

/-- Whether a label has a character that runs from right to left. -/
def isMixed (l : Label) : Bool :=
  l.text.any fun c => Text.direction c = .right || Text.direction c = .arabic

/-- Whether a label can be read in one direction: that of its first letter, which is also that
of its last letter or digit. Digits of the two kinds do not meet. -/
def isOneWay (l : Label) : Bool :=
  let ds := l.text.map Text.direction
  let last := ds.reverse.find? (· ≠ .mark)
  match ds.head? with
  | none => true
  | some .left =>
    !ds.contains .right && !ds.contains .arabic && (last = some .left || last = some .european)
  | some .right =>
    !ds.contains .left && last ≠ some .neutral &&
      !(ds.contains .arabic && ds.contains .european)
  | some _ => false

theorem encode_ascii {cs : List Char} (h : cs.all Punycode.isBasic = true) : encode cs = cs := by
  simp [encode, h]

end Label
end MailSync.Url
