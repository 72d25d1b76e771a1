import MailSync.Text.Numeral
import MailSync.Text.Blank
import MailSync.Text.Utf8

/-!
# Elements of binary XML documents

A tag is a token on a code page. An element carries a tag, at most one value (text or
bytes), and child elements in order. The queries below look at direct children only and
take the first match.
-/
namespace MailSync.Wbxml

structure Tag where
  page : UInt8
  token : UInt8
deriving Repr, DecidableEq, Inhabited

/-- The page in decimal and the token in hexadecimal. -/
def Tag.label (t : Tag) : String :=
  s!"Tag({t.page.toNat}:0x{Text.hexByte t.token})"

inductive Value where
  | text (content : String)
  | bytes (content : Bytes)
deriving Repr, DecidableEq

structure Element where
  tag : Tag
  value : Option Value
  children : List Element
deriving Repr, Inhabited

namespace Element

def empty (tag : Tag) : Element := ⟨tag, none, []⟩

def text (tag : Tag) (content : String) : Element := ⟨tag, some (.text content), []⟩

def bytes (tag : Tag) (content : Bytes) : Element := ⟨tag, some (.bytes content), []⟩

def node (tag : Tag) (children : List Element) : Element := ⟨tag, none, children⟩

/-- A text element whose content is a number in decimal. -/
def number (tag : Tag) (n : UInt32) : Element := text tag (toString n.toNat)

def find? (e : Element) (tag : Tag) : Option Element := e.children.find? (·.tag = tag)

def findAll (e : Element) (tag : Tag) : List Element := e.children.filter (·.tag = tag)

/-- Follows a chain of first children. -/
def path? : Element → List Tag → Option Element
  | e, [] => some e
  | e, tag :: tags => (e.find? tag).bind (path? · tags)

/-- The value as text. Bytes count as text when they are valid UTF-8. -/
def text? (e : Element) : Option String :=
  match e.value with
  | some (.text s) => some s
  | some (.bytes bs) => Text.ofBytes? bs
  | none => none

def bytes? (e : Element) : Option Bytes :=
  match e.value with
  | some (.text s) => some (Text.toBytes s)
  | some (.bytes bs) => some bs
  | none => none

def childText? (e : Element) (tag : Tag) : Option String := (e.find? tag).bind text?

/-- A child's text read as a number, blanks around it ignored. -/
def childNumber? (e : Element) (tag : Tag) : Option UInt32 :=
  (e.childText? tag).bind fun s => Text.uint32? (Text.trimString s)

def has (e : Element) (tag : Tag) : Bool := (e.find? tag).isSome

def hasContent (e : Element) : Bool := e.value.isSome || !e.children.isEmpty

end Element
end MailSync.Wbxml
