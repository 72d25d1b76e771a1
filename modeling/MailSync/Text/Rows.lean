import MailSync.Text.Hex

/-!
# Tables in rows

Tables of characters, written as text. A row holds words between blanks. The first one is the
number of a character in hexadecimal, and each of the others gives characters by their numbers
with a plus sign between them. A lone hyphen gives none.
-/
namespace MailSync.Text

structure Row where
  first : Nat
  entries : List (List Char)
deriving Repr, DecidableEq

namespace Row

/-- The characters that a word gives. -/
def entry (text : String) : List Char :=
  if text = "-" then [] else (text.splitOn "+").map fun s => Char.ofNat (hexValue s)

def ofText (text : String) : Row :=
  match text.splitOn " " with
  | [] => ⟨0, []⟩
  | first :: words => ⟨hexValue first, words.map entry⟩

/-- Reads the entries as those of the first character and of the ones that follow it. Empty
entries are left out. -/
def successive (r : Row) : List (Nat × List Char) :=
  (r.entries.zipIdx r.first).filterMap fun (cs, n) => if cs = [] then none else some (n, cs)

end Row
end MailSync.Text
