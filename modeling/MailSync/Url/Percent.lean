import MailSync.Text.Hex

/-!
# Percent-encoding

A character that cannot stand in a part of an address is written as its UTF-8 octets, each
as a percent sign and two hexadecimal digits. Which characters can stand depends on the part.
-/
namespace MailSync.Url

def escapeByte (b : UInt8) : List Char :=
  ['%', (Nat.digitChar (b.toNat / 16)).toUpper, (Nat.digitChar (b.toNat % 16)).toUpper]

/-- A character, escaped unless it is kept. -/
def escapeChar (keeps : Char → Bool) (c : Char) : List Char :=
  if keeps c then [c] else (Text.toBytes (String.singleton c)).flatMap escapeByte

def escape (keeps : Char → Bool) (cs : List Char) : List Char := cs.flatMap (escapeChar keeps)

/-- Octets with escapes resolved. A percent sign without two digits stands for itself. -/
def unescape : Bytes → Bytes
  | [] => []
  | [a] => [a]
  | [a, b] => [a, b]
  | a :: b :: c :: rest =>
    match Text.hexDigit? (Char.ofNat b.toNat), Text.hexDigit? (Char.ofNat c.toNat) with
    | some x, some y =>
      if a = 0x25 then UInt8.ofNat (x * 16 + y) :: unescape rest
      else a :: unescape (b :: c :: rest)
    | _, _ => a :: unescape (b :: c :: rest)

/-- Visible ASCII characters outside a list. -/
def visibleBut (refused : List Char) (c : Char) : Bool := '!' ≤ c && c ≤ '~' && !refused.contains c

def inFragment : Char → Bool := visibleBut ['"', '<', '>', '\x60']

def inQuery : Char → Bool := visibleBut ['"', '#', '<', '>', '\'']

def inPath : Char → Bool := visibleBut ['"', '<', '>', '\x60', '#', '?', '\x7b', '\x7d']

def inUserinfo : Char → Bool :=
  visibleBut ['"', '<', '>', '\x60', '#', '?', '\x7b', '\x7d', '/', ':', ';', '=', '@', '[', '\\',
    ']', '^', '|']

/-- What a form keeps as it is. -/
def inForm (c : Char) : Bool := c.isAlphanum || c = '*' || c = '-' || c = '.' || c = '_'

/-- A name or a value of a form. Spaces become plus signs. -/
def formText (s : String) : List Char :=
  s.toList.flatMap fun c => if c = ' ' then ['+'] else escapeChar inForm c

/-- Pairs of names and values as a form sends them. -/
def form (pairs : List (String × String)) : String :=
  "&".intercalate (pairs.map fun (name, value) =>
    String.ofList (formText name ++ '=' :: formText value))

theorem escape_append (keeps : Char → Bool) (a b : List Char) :
    escape keeps (a ++ b) = escape keeps a ++ escape keeps b := by
  simp [escape]

theorem escape_of_kept {keeps : Char → Bool} {cs : List Char} (h : ∀ c ∈ cs, keeps c = true) :
    escape keeps cs = cs := by
  induction cs with
  | nil => rfl
  | cons c rest ih =>
    have hc := h c (by simp)
    have hr := ih fun d hd => h d (by simp [hd])
    simp only [escape, List.flatMap_cons, escapeChar, hc, if_true]
    exact congrArg (c :: ·) hr

end MailSync.Url
