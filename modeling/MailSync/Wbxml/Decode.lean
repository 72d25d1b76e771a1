import MailSync.Wbxml.Encode

/-!
# Reading documents

Content is read as a list of items in the order of the bytes: pieces of text, pieces of
bytes, children. The value of an element joins its pieces; bytes win over text. Bytes
behind the root element are not looked at.
-/
namespace MailSync.Wbxml

inductive Item where
  | text (piece : String)
  | bytes (piece : Bytes)
  | child (element : Element)
deriving Repr

namespace Item

def text? : Item → Option String
  | .text s => some s
  | _ => none

def bytes? : Item → Option Bytes
  | .bytes bs => some bs
  | _ => none

def child? : Item → Option Element
  | .child e => some e
  | _ => none

/-- All pieces of bytes if there are any, else all pieces of text if there are any. -/
def value? (items : List Item) : Option Value :=
  match items.filterMap bytes?, items.filterMap text? with
  | [], [] => none
  | [], texts => some (.text (String.join texts))
  | pieces, _ => some (.bytes pieces.flatten)

end Item

def Element.ofItems (tag : Tag) (items : List Item) : Element :=
  ⟨tag, Item.value? items, items.filterMap Item.child?⟩

/-- What is left to read, and the code page in force there. -/
structure Cursor where
  rest : Bytes
  page : UInt8
deriving Repr, DecidableEq

def readByte : Bytes → Except Error (UInt8 × Bytes)
  | [] => .error .unexpectedEnd
  | b :: rest => .ok (b, rest)

def readBytes (n : Nat) (bs : Bytes) : Except Error (Bytes × Bytes) :=
  if n ≤ bs.length then .ok (bs.take n, bs.drop n) else .error .unexpectedEnd

def readText (bs : Bytes) : Except Error String :=
  match Text.ofBytes? bs with
  | some s => .ok s
  | none => .error .invalidText

/-- Text up to the next zero byte, which must come. -/
def readInline (bs : Bytes) : Except Error (String × Bytes) :=
  match bs.dropWhile (· ≠ 0) with
  | [] => .error .unexpectedEnd
  | _ :: rest => do
    let s ← readText (bs.takeWhile (· ≠ 0))
    .ok (s, rest)

/-- Text of the string table from an offset up to a zero byte or the table's end. -/
def readReference (table bs : Bytes) : Except Error (String × Bytes) := do
  let (offset, rest) ← MultiByte.read bs
  if offset.toNat ≤ table.length then
    let s ← readText ((table.drop offset.toNat).takeWhile (· ≠ 0))
    .ok (s, rest)
  else .error (.badStringReference offset)

def readEntity (bs : Bytes) : Except Error (String × Bytes) := do
  let (code, rest) ← MultiByte.read bs
  if h : code.isValidChar then .ok (String.singleton ⟨code, h⟩, rest)
  else .error .invalidText

def readOpaque (bs : Bytes) : Except Error (Bytes × Bytes) := do
  let (n, rest) ← MultiByte.read bs
  readBytes n.toNat rest

/-- The next byte that is not part of a page switch. The cursor stands behind it. -/
def readTagByte : UInt8 → Bytes → Except Error (UInt8 × Cursor)
  | _, [] => .error .unexpectedEnd
  | page, [b] => if b = switchPage then .error .unexpectedEnd else .ok (b, ⟨[], page⟩)
  | page, b :: p :: rest =>
    if b = switchPage then readTagByte p rest else .ok (b, ⟨p :: rest, page⟩)

/-- The items up to the end of the content. Each one takes a byte at least, so a fuel above
the number of bytes left is never used up. -/
def readItems (table : Bytes) (child : Cursor → Except Error (Element × Cursor)) :
    Nat → Cursor → Except Error (List Item × Cursor)
  | 0, _ => .error .unexpectedEnd
  | _ + 1, ⟨[], _⟩ => .error .unexpectedEnd
  | fuel + 1, ⟨b :: rest, page⟩ =>
    if b = switchPage then do
      let (p, rest) ← readByte rest
      readItems table child fuel ⟨rest, p⟩
    else if b = endOfContent then .ok ([], ⟨rest, page⟩)
    else if b = inlineString then do
      let (s, rest) ← readInline rest
      let (items, c) ← readItems table child fuel ⟨rest, page⟩
      .ok (.text s :: items, c)
    else if b = tableString then do
      let (s, rest) ← readReference table rest
      let (items, c) ← readItems table child fuel ⟨rest, page⟩
      .ok (.text s :: items, c)
    else if b = entity then do
      let (s, rest) ← readEntity rest
      let (items, c) ← readItems table child fuel ⟨rest, page⟩
      .ok (.text s :: items, c)
    else if b = opaqueData then do
      let (bs, rest) ← readOpaque rest
      let (items, c) ← readItems table child fuel ⟨rest, page⟩
      .ok (.bytes bs :: items, c)
    else if b &&& tokenMask < firstTag then .error (.unsupportedToken b)
    else do
      let (e, c) ← child ⟨b :: rest, page⟩
      let (items, c) ← readItems table child fuel c
      .ok (.child e :: items, c)

/-- Reads one element that may use a given number of levels. -/
def readElement (table : Bytes) : Nat → Cursor → Except Error (Element × Cursor)
  | 0, _ => .error .tooDeep
  | levels + 1, ⟨rest, page⟩ => do
    let (b, c) ← readTagByte page rest
    let tag : Tag := ⟨c.page, b &&& tokenMask⟩
    if tag.token < firstTag then .error (.unsupportedToken b)
    else if b &&& attributeBit ≠ 0 then .error (.attributesUnsupported tag)
    else if b &&& contentBit = 0 then .ok (.empty tag, c)
    else
      let (items, c) ← readItems table (readElement table levels) (c.rest.length + 1) c
      .ok (.ofItems tag items, c)

/-- The string table, and the bytes behind the header. A public identifier of zero is
followed by a reference into the table. -/
def readHeader (bs : Bytes) : Except Error (Bytes × Bytes) := do
  let (_, rest) ← readByte bs
  let (publicId, rest) ← MultiByte.read rest
  let rest ← if publicId = 0 then Prod.snd <$> MultiByte.read rest else .ok rest
  let (_, rest) ← MultiByte.read rest
  let (size, rest) ← MultiByte.read rest
  readBytes size.toNat rest

def decode (bs : Bytes) : Except Error Element := do
  let (table, rest) ← readHeader bs
  let (root, _) ← readElement table (maxDepth + 1) ⟨rest, 0⟩
  .ok root

end MailSync.Wbxml
