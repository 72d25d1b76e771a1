import Mathlib.Algebra.Order.Group.Nat
import MailSync.Proofs.Wbxml.Framing

/-!
# Documents that were read, written again

The reader takes more than the writer writes: string tables, references into them, entities, values
in several pieces, switches to the page in force, numbers with zero groups in front, bytes behind
the root. Whatever it takes is an element that can be written, and to write it and read it again
gives the same element, but for the NUL characters that an entity may have put into a text; from
then on nothing changes any more. Each piece of a value comes from bytes of its own, so that a value
is no longer than the document.
-/
namespace MailSync.Wbxml

/-! ### What is left to read -/

/-- A reader that leaves no more than it was given. -/
def Shortens {α : Type} (read : Bytes → Except Error (α × Bytes)) : Prop :=
  ∀ ⦃bs a rest⦄, read bs = .ok (a, rest) → rest.length ≤ bs.length

theorem Frames.shortens {α : Type} {read : Bytes → Except Error (α × Bytes)} (h : Frames read) :
    Shortens read := fun _ _ _ hread => h.length_le hread

/-- The bytes that are taken and those that are left are those that were there. -/
theorem length_of_readBytes {n : Nat} {bs taken rest : Bytes}
    (h : readBytes n bs = .ok (taken, rest)) : taken.length + rest.length = bs.length := by
  unfold readBytes at h
  split_ifs at h
  cases h
  rw [← List.length_append, List.take_append_drop]

theorem length_of_readOpaque {bs piece rest : Bytes} (h : readOpaque bs = .ok (piece, rest)) :
    piece.length + rest.length ≤ bs.length := by
  obtain ⟨⟨n, rest'⟩, hread, h⟩ := bind_eq_ok_iff.mp h
  exact (length_of_readBytes h).trans_le (MultiByte.frames_read.shortens hread)

theorem shortens_readHeader : Shortens readHeader := frames_readHeader.shortens

/-! ### What is read -/

/-- What the reader of one child is known for: the element can be written, nests less than so many
levels deep, and no byte comes from nowhere. -/
def Sound (levels : Nat) (child : Cursor → Except Error (Element × Cursor)) : Prop :=
  ∀ ⦃c e c'⦄, child c = .ok (e, c') → c.rest.length < 2 ^ 32 →
    e.Writable ∧ e.height < levels ∧ c'.rest.length ≤ c.rest.length

/-- One item is taken from the content. -/
inductive Takes (child : Cursor → Except Error (Element × Cursor)) :
    Cursor → Item → Cursor → Prop
  | text {bs rest : Bytes} {page : UInt8} (s : String) (le : rest.length ≤ bs.length) :
      Takes child ⟨bs, page⟩ (.text s) ⟨rest, page⟩
  | bytes {bs piece rest : Bytes} {page : UInt8} (le : piece.length + rest.length ≤ bs.length) :
      Takes child ⟨bs, page⟩ (.bytes piece) ⟨rest, page⟩
  | child {c c' : Cursor} {e : Element} (read : child c = .ok (e, c')) :
      Takes child c (.child e) c'

section
variable {table : Bytes} {child : Cursor → Except Error (Element × Cursor)} {levels fuel : Nat}
  {c c' : Cursor} {items : List Item}

/-- The first step through the content: over a switch, to the end, or over an item. -/
theorem readItems_cases (h : readItems table child (fuel + 1) c = .ok (items, c')) :
    (∃ c₁, c₁.rest.length ≤ c.rest.length ∧ readItems table child fuel c₁ = .ok (items, c')) ∨
      items = [] ∧ c'.rest.length ≤ c.rest.length ∨
      ∃ item others c₁, Takes child c item c₁ ∧
        readItems table child fuel c₁ = .ok (others, c') ∧ items = item :: others := by
  obtain ⟨_ | ⟨b, bs⟩, page⟩ := c
  · cases h
  have hle : bs.length ≤ (b :: bs).length := Nat.le_succ _
  simp only [readItems] at h
  split_ifs at h
  · obtain ⟨⟨p, rest⟩, hread, h⟩ := bind_eq_ok_iff.mp h
    exact .inl ⟨_, (frames_readByte.shortens hread).trans hle, h⟩
  · cases h
    exact .inr (.inl ⟨rfl, hle⟩)
  · obtain ⟨⟨s, rest⟩, hread, h⟩ := bind_eq_ok_iff.mp h
    obtain ⟨⟨others, c₁⟩, hothers, h⟩ := bind_eq_ok_iff.mp h
    cases h
    exact .inr (.inr ⟨_, _, _, .text s ((frames_readInline.shortens hread).trans hle), hothers, rfl⟩)
  · obtain ⟨⟨s, rest⟩, hread, h⟩ := bind_eq_ok_iff.mp h
    obtain ⟨⟨others, c₁⟩, hothers, h⟩ := bind_eq_ok_iff.mp h
    cases h
    refine .inr (.inr ⟨_, _, _, .text s ?_, hothers, rfl⟩)
    exact ((frames_readReference table).shortens hread).trans hle
  · obtain ⟨⟨s, rest⟩, hread, h⟩ := bind_eq_ok_iff.mp h
    obtain ⟨⟨others, c₁⟩, hothers, h⟩ := bind_eq_ok_iff.mp h
    cases h
    exact .inr (.inr ⟨_, _, _, .text s ((frames_readEntity.shortens hread).trans hle), hothers, rfl⟩)
  · obtain ⟨⟨piece, rest⟩, hread, h⟩ := bind_eq_ok_iff.mp h
    obtain ⟨⟨others, c₁⟩, hothers, h⟩ := bind_eq_ok_iff.mp h
    cases h
    exact .inr (.inr ⟨_, _, _, .bytes ((length_of_readOpaque hread).trans hle), hothers, rfl⟩)
  · obtain ⟨⟨e, c₁⟩, hread, h⟩ := bind_eq_ok_iff.mp h
    obtain ⟨⟨others, c₂⟩, hothers, h⟩ := bind_eq_ok_iff.mp h
    cases h
    exact .inr (.inr ⟨_, _, _, .child hread, hothers, rfl⟩)

/-- The children in the content are sound, and the pieces of bytes in it and what is left behind it
fit into what was there. -/
theorem readItems_sound (hchild : Sound levels child)
    (h : readItems table child fuel c = .ok (items, c')) (hc : c.rest.length < 2 ^ 32) :
    WritableAll (items.filterMap Item.child?) ∧ heightAll (items.filterMap Item.child?) ≤ levels ∧
      (items.filterMap Item.bytes?).flatten.length + c'.rest.length ≤ c.rest.length := by
  -- On the fuel: each step leaves a cursor that is no longer.
  induction fuel generalizing c items with
  | zero => cases h
  | succ fuel ih =>
    rcases readItems_cases h with ⟨c₁, hle, hrest⟩ | ⟨rfl, hle⟩ |
      ⟨item, others, c₁, htakes, hrest, rfl⟩
    · obtain ⟨hwritable, hheight, hlength⟩ := ih hrest (hle.trans_lt hc)
      exact ⟨hwritable, hheight, hlength.trans hle⟩
    · exact ⟨trivial, Nat.zero_le _, by simpa using hle⟩
    · cases htakes with
      | text s hle =>
        obtain ⟨hwritable, hheight, hlength⟩ := ih hrest (hle.trans_lt hc)
        exact ⟨hwritable, hheight, hlength.trans hle⟩
      | bytes hle =>
        obtain ⟨hwritable, hheight, hlength⟩ := ih hrest (by simp only at hc ⊢; omega)
        refine ⟨hwritable, hheight, ?_⟩
        simp only [List.filterMap_cons, Item.bytes?, List.flatten_cons, List.length_append] at *
        omega
      | child hread =>
        obtain ⟨he, hlow, hle⟩ := hchild hread hc
        obtain ⟨hwritable, hheight, hlength⟩ := ih hrest (hle.trans_lt hc)
        refine ⟨⟨he, hwritable⟩, heightAll_cons_le.mpr ⟨hlow, hheight⟩, hlength.trans hle⟩

end

/-- An element made of items has as many bytes for its value as they have. -/
theorem length_of_value? {items : List Item} {bs : Bytes}
    (h : Item.value? items = some (.bytes bs)) :
    bs.length = (items.filterMap Item.bytes?).flatten.length := by
  unfold Item.value? at h
  split at h
  · cases h
  · cases h
  · obtain rfl := Value.bytes.inj (Option.some.inj h)
    rfl

/-- What is read at a level can be written, and takes up no more levels than there are. -/
theorem readElement_sound (table : Bytes) (levels : Nat) :
    Sound levels (readElement table levels) := by
  induction levels with
  | zero => exact fun _ _ _ h => nomatch h
  | succ levels ih =>
    rintro ⟨bs, page⟩ e c' h hc
    obtain ⟨⟨b, c⟩, htag, h⟩ := bind_eq_ok_iff.mp h
    have hle : c.rest.length ≤ bs.length := (frames_readTagByte page).length_le htag
    simp only at h
    split_ifs at h with htoken
    -- A tag that passes the first test has a token for tags; the mask bounds it from above.
    all_goals
      have hwritable : Tag.Writable ⟨c.page, b &&& tokenMask⟩ :=
        ⟨UInt8.not_lt.mp htoken, UInt8.and_le_right⟩
    · cases h
      exact ⟨⟨hwritable, fun _ h => (by cases h), trivial⟩, Nat.succ_pos _, hle⟩
    · obtain ⟨⟨items, c₁⟩, hitems, h⟩ := bind_eq_ok_iff.mp h
      change Except.ok (Element.ofItems _ items, c₁) = _ at h
      cases h
      obtain ⟨hchildren, hheight, hlength⟩ := readItems_sound ih hitems (hle.trans_lt hc)
      refine ⟨⟨hwritable, ?_, hchildren⟩, Nat.lt_succ_of_le hheight,
        (Nat.le_add_left ..).trans (hlength.trans hle)⟩
      intro v hv
      cases v with
      | text s => trivial
      | bytes piece =>
        have hpiece := length_of_value? hv
        change piece.length < 2 ^ 32
        simp only at hc
        omega

/-! ### Written again -/

theorem Value.encode_withoutNul (v : Value) : v.withoutNul.encode = v.encode := by
  cases v with
  | text s =>
    have hfilter : (Text.toBytes (Text.withoutNul s)).filter (· ≠ 0) =
        (Text.toBytes s).filter (· ≠ 0) := by
      rw [← Text.filter_toBytes, List.filter_filter]
      simp only [Bool.and_self]
    simp only [withoutNul, encode, hfilter]
  | bytes bs => rfl

mutual

/-- The NUL characters of its texts leave no trace in the bytes of an element. -/
theorem Element.encodeFrom_withoutNul (page : UInt8) :
    (e : Element) → e.withoutNul.encodeFrom page = e.encodeFrom page
  | ⟨tag, value, children⟩ => by
    have hvalue : encodeValue (value.map Value.withoutNul) = encodeValue value := by
      cases value with
      | none => rfl
      | some v => exact v.encode_withoutNul
    have hnone : (value.map Value.withoutNul).isNone = value.isNone := by cases value <;> rfl
    have hempty : (withoutNulAll children).isEmpty = children.isEmpty := by cases children <;> rfl
    simp only [Element.withoutNul, Element.encodeFrom, hvalue, hnone, hempty,
      encodeAll_withoutNul tag.page children]

theorem encodeAll_withoutNul (page : UInt8) :
    (es : List Element) → encodeAll page (withoutNulAll es) = encodeAll page es
  | [] => rfl
  | e :: es => by
    simp only [withoutNulAll, encodeAll, e.encodeFrom_withoutNul page,
      encodeAll_withoutNul (e.encodeFrom page).2 es]

end

/-- An element that was read has tokens for tags only and does not nest too deep. Written again it
is read back without the NUL characters of its texts, and that element is written in the same way,
so that a second round changes nothing. -/
theorem decoded_reencodes {bs : Bytes} (hbs : bs.length < 2 ^ 32) {e : Element}
    (h : decode bs = .ok e) :
    e.Writable ∧ e.height ≤ maxDepth ∧ decode e.encode = .ok e.withoutNul ∧
      e.withoutNul.encode = e.encode ∧ decode e.withoutNul.encode = .ok e.withoutNul := by
  obtain ⟨⟨table, rest⟩, hheader, h⟩ := bind_eq_ok_iff.mp h
  obtain ⟨⟨root, c⟩, hroot, h⟩ := bind_eq_ok_iff.mp h
  cases h
  have hrest := (shortens_readHeader hheader).trans_lt hbs
  obtain ⟨hwritable, hheight, -⟩ := readElement_sound table (maxDepth + 1) hroot hrest
  have hlow : e.height ≤ maxDepth := Nat.le_of_lt_succ hheight
  have hagain : decode e.encode = .ok e.withoutNul := by
    rw [hwritable.decode_eq, Element.readBack, if_pos hheight]
    rfl
  have hsame : e.withoutNul.encode = e.encode := by
    rw [Element.encode, e.encodeFrom_withoutNul, Element.encode]
  exact ⟨hwritable, hlow, hagain, hsame, hsame ▸ hagain⟩

/-- A document that uses what the writer does not: a table with a public identifier in it, numbers
with zero groups, switches to the page in force, a text of a reference, an entity and an inline
piece, a value of two pieces of bytes and one of text, and bytes behind the root. -/
def loose : Bytes :=
  [0x03, 0x00, 0x00, 0x80, 0x6A, 0x80, 0x06, 0x61, 0x62, 0x00, 0x63, 0x64, 0x00,
    0x00, 0x00, 0x45,
      0x46, 0x83, 0x80, 0x03, 0x02, 0x00, 0x03, 0x78, 0x00, 0x01,
      0x00, 0x00, 0x00, 0x11, 0x7F, 0xC3, 0x01, 0xFF, 0x03, 0x79, 0x00,
      0xC3, 0x80, 0x01, 0x00, 0x01,
    0x01, 0xFF]

theorem loose_reencodes :
    loose.length < 2 ^ 32 ∧
    decode loose = .ok (.node ⟨0, 0x05⟩ [.text ⟨0, 0x06⟩ "cd\x00x",
      .bytes ⟨17, 0x3F⟩ [0xFF, 0x00]]) ∧
    decode (Element.node ⟨0, 0x05⟩ [.text ⟨0, 0x06⟩ "cd\x00x",
        .bytes ⟨17, 0x3F⟩ [0xFF, 0x00]]).encode =
      .ok (.node ⟨0, 0x05⟩ [.text ⟨0, 0x06⟩ "cdx", .bytes ⟨17, 0x3F⟩ [0xFF, 0x00]]) := by
  have hlength : loose.length < 2 ^ 32 := by decide
  have hread : decode loose = .ok (.node ⟨0, 0x05⟩ [.text ⟨0, 0x06⟩ "cd\x00x",
      .bytes ⟨17, 0x3F⟩ [0xFF, 0x00]]) := by rfl
  exact ⟨hlength, hread, (decoded_reencodes hlength hread).2.2.1⟩

end MailSync.Wbxml
