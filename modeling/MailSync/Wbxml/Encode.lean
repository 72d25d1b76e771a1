import MailSync.Wbxml.MultiByte

/-!
# Writing documents

Version 1.3, unknown public identifier, UTF-8, empty string table. Text is written inline
and ends at a zero byte, so NUL characters are left out of it. The code page is switched
only where it changes.
-/
namespace MailSync.Wbxml

/-! The global tokens. -/

def switchPage : UInt8 := 0x00
def endOfContent : UInt8 := 0x01
def entity : UInt8 := 0x02
def inlineString : UInt8 := 0x03
def tableString : UInt8 := 0x83
def opaqueData : UInt8 := 0xC3

/-- Tokens below this one are global. -/
def firstTag : UInt8 := 0x05
def tokenMask : UInt8 := 0x3F
def contentBit : UInt8 := 0x40
def attributeBit : UInt8 := 0x80

def header : Bytes := [0x03, 0x01, 0x6A, 0x00]

def Value.encode : Value → Bytes
  | .text s => inlineString :: ((Text.toBytes s).filter (· ≠ 0) ++ [0])
  | .bytes bs => opaqueData :: (MultiByte.write (UInt32.ofNat bs.length) ++ bs)

def encodeValue : Option Value → Bytes
  | none => []
  | some v => v.encode

mutual

/-- The bytes of an element that starts on a given code page, and the page it ends on. -/
def Element.encodeFrom (page : UInt8) : Element → Bytes × UInt8
  | ⟨tag, value, children⟩ =>
    let shift := if tag.page = page then [] else [switchPage, tag.page]
    if value.isNone && children.isEmpty then (shift ++ [tag.token], tag.page)
    else
      let (body, last) := encodeAll tag.page children
      (shift ++ (tag.token ||| contentBit) :: (encodeValue value ++ (body ++ [endOfContent])), last)

def encodeAll (page : UInt8) : List Element → Bytes × UInt8
  | [] => ([], page)
  | e :: es =>
    let (first, middle) := e.encodeFrom page
    let (rest, last) := encodeAll middle es
    (first ++ rest, last)

end

def Element.encode (root : Element) : Bytes := header ++ (root.encodeFrom 0).1

end MailSync.Wbxml
