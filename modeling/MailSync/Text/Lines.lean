/-!
# Lines

A text cut at its line feeds. A return in front of a line feed belongs to the end of the
line; a return at the end of the text belongs to the last line.
-/
namespace MailSync.Text

/-- Drops the return that ends a line, given backwards. -/
def dropReturn : List Char → List Char
  | '\r' :: cs => cs
  | cs => cs

/-- The lines of a text, after the part of the first one that was already read, given
backwards. -/
def linesFrom : List Char → List Char → List (List Char)
  | [], [] => []
  | read, [] => [read.reverse]
  | read, c :: cs =>
    if c = '\n' then (dropReturn read).reverse :: linesFrom [] cs else linesFrom (c :: read) cs

def lines (cs : List Char) : List (List Char) := linesFrom [] cs

theorem lines_nil : lines [] = [] := rfl

end MailSync.Text
