import MailSync.Wbxml.Element

/-!
# Why a document cannot be decoded
-/
namespace MailSync.Wbxml

/-- Documents may nest this many levels below the root. -/
def maxDepth : Nat := 64

inductive Error where
  | unexpectedEnd
  | unsupportedToken (byte : UInt8)
  | attributesUnsupported (tag : Tag)
  | invalidText
  | integerOverflow
  | badStringReference (offset : UInt32)
  | tooDeep
deriving Repr, DecidableEq

def Error.message : Error → String
  | .unexpectedEnd => "unexpected end of document"
  | .unsupportedToken b => s!"unsupported token 0x{Text.hexByte b}"
  | .attributesUnsupported tag => s!"attributes are not supported ({tag.label})"
  | .invalidText => "invalid UTF-8 in inline string"
  | .integerOverflow => "multi-byte integer overflow"
  | .badStringReference offset => s!"string table reference {offset.toNat} out of range"
  | .tooDeep => s!"document nesting exceeds {maxDepth} levels"

/-- The name of the kind of an error. -/
def Error.title : Error → String
  | .unexpectedEnd => "UnexpectedEof"
  | .unsupportedToken _ => "UnsupportedToken"
  | .attributesUnsupported _ => "AttributesUnsupported"
  | .invalidText => "InvalidUtf8"
  | .integerOverflow => "IntegerOverflow"
  | .badStringReference _ => "BadStringReference"
  | .tooDeep => "TooDeep"

end MailSync.Wbxml
