import Mathlib.Tactic.SplitIfs
import MailSync.Proofs.Text.Utf8
import MailSync.Proofs.Wbxml.MultiByte
import MailSync.Wbxml.Decode

/-!
# Documents, written and read

An element is read back as it was written, with the code page that was in force behind it, but for
the NUL characters of its texts. Reading fails on a document that nests too deep and only there: all
that stands in front of the first element below the last level can be read.
-/
namespace MailSync.Wbxml

def Value.withoutNul : Value → Value
  | .text s => .text (Text.withoutNul s)
  | .bytes bs => .bytes bs

mutual

/-- An element as it is read back: no text has a NUL character. -/
def Element.withoutNul : Element → Element
  | ⟨tag, value, children⟩ => ⟨tag, value.map Value.withoutNul, withoutNulAll children⟩

def withoutNulAll : List Element → List Element
  | [] => []
  | e :: es => e.withoutNul :: withoutNulAll es

end

mutual

/-- The levels below an element. -/
def Element.height : Element → Nat
  | ⟨_, _, children⟩ => heightAll children

/-- The levels that elements take up. -/
def heightAll : List Element → Nat
  | [] => 0
  | e :: es => max (e.height + 1) (heightAll es)

end

/-- Bytes have a length that can be written. -/
def Value.Writable : Value → Prop
  | .text _ => True
  | .bytes bs => bs.length < 2 ^ 32

instance : (v : Value) → Decidable v.Writable
  | .text _ => .isTrue trivial
  | .bytes bs => inferInstanceAs (Decidable (bs.length < 2 ^ 32))

/-- The tokens that are left for tags. -/
def Tag.Writable (t : Tag) : Prop := firstTag ≤ t.token ∧ t.token ≤ tokenMask

instance (t : Tag) : Decidable t.Writable :=
  inferInstanceAs (Decidable (firstTag ≤ t.token ∧ t.token ≤ tokenMask))

mutual

/-- Every tag has a token for tags, on whatever page, and every value a length that can be
written. -/
def Element.Writable : Element → Prop
  | ⟨tag, value, children⟩ => tag.Writable ∧ (∀ v ∈ value, v.Writable) ∧ WritableAll children

def WritableAll : List Element → Prop
  | [] => True
  | e :: es => e.Writable ∧ WritableAll es

end

mutual

def Element.decidableWritable : (e : Element) → Decidable e.Writable
  | ⟨tag, value, children⟩ =>
    have := decidableWritableAll children
    inferInstanceAs
      (Decidable (tag.Writable ∧ (∀ v ∈ value, v.Writable) ∧ WritableAll children))

def decidableWritableAll : (es : List Element) → Decidable (WritableAll es)
  | [] => .isTrue trivial
  | e :: es =>
    have := e.decidableWritable
    have := decidableWritableAll es
    inferInstanceAs (Decidable (e.Writable ∧ WritableAll es))

end

instance (e : Element) : Decidable e.Writable := e.decidableWritable

theorem heightAll_cons_le {e : Element} {es : List Element} {levels : Nat} :
    heightAll (e :: es) ≤ levels ↔ e.height < levels ∧ heightAll es ≤ levels := by
  rw [heightAll]
  omega

theorem Tag.Writable.byte {t : Tag} (h : t.Writable) :
    t.token &&& tokenMask = t.token ∧ t.token &&& attributeBit = 0 ∧
      t.token &&& contentBit = 0 := by
  have hb : ∀ v : BitVec 8, UInt8.ofBitVec v ≤ tokenMask →
      UInt8.ofBitVec v &&& tokenMask = UInt8.ofBitVec v ∧
        UInt8.ofBitVec v &&& attributeBit = 0 ∧ UInt8.ofBitVec v &&& contentBit = 0 := by decide
  exact hb t.token.toBitVec h.2

theorem Tag.Writable.byte_with_content {t : Tag} (h : t.Writable) :
    (t.token ||| contentBit) &&& tokenMask = t.token ∧
      (t.token ||| contentBit) &&& attributeBit = 0 ∧
      (t.token ||| contentBit) &&& contentBit ≠ 0 := by
  have hb : ∀ v : BitVec 8, UInt8.ofBitVec v ≤ tokenMask →
      (UInt8.ofBitVec v ||| contentBit) &&& tokenMask = UInt8.ofBitVec v ∧
        (UInt8.ofBitVec v ||| contentBit) &&& attributeBit = 0 ∧
        (UInt8.ofBitVec v ||| contentBit) &&& contentBit ≠ 0 := by decide
  exact hb t.token.toBitVec h.2

theorem readTagByte_switch (page p : UInt8) (rest : Bytes) :
    readTagByte page (switchPage :: p :: rest) = readTagByte p rest := by
  rw [readTagByte, if_pos rfl]

theorem readTagByte_of_ne {b : UInt8} (h : b ≠ switchPage) (page : UInt8) (rest : Bytes) :
    readTagByte page (b :: rest) = .ok (b, ⟨rest, page⟩) := by
  cases rest <;> rw [readTagByte, if_neg h]

section
variable {table : Bytes} {child : Cursor → Except Error (Element × Cursor)} {n : Nat}
  {page : UInt8}

theorem readItems_switch (p : UInt8) (rest : Bytes) :
    readItems table child (n + 1) ⟨switchPage :: p :: rest, page⟩ =
      readItems table child n ⟨rest, p⟩ := by
  rw [readItems, if_pos rfl]
  rfl

theorem readItems_end (rest : Bytes) :
    readItems table child (n + 1) ⟨endOfContent :: rest, page⟩ = .ok ([], ⟨rest, page⟩) := by
  rw [readItems, if_neg (by decide), if_pos rfl]

theorem readItems_child {b : UInt8} (h : ¬b &&& tokenMask < firstTag) (rest : Bytes) :
    readItems table child (n + 1) ⟨b :: rest, page⟩ = (do
      let (e, c) ← child ⟨b :: rest, page⟩
      let (items, c) ← readItems table child n c
      .ok (.child e :: items, c)) := by
  have hne {g : UInt8} (hg : g &&& tokenMask < firstTag) : b ≠ g := by
    rintro rfl
    exact h hg
  rw [readItems, if_neg (hne (by decide)), if_neg (hne (by decide)), if_neg (hne (by decide)),
    if_neg (hne (by decide)), if_neg (hne (by decide)), if_neg (hne (by decide)), if_neg h]

/-- A value as a piece of content. -/
def Value.item : Value → Item
  | .text s => .text s
  | .bytes bs => .bytes bs

theorem readInline_withoutNul (s : String) (rest : Bytes) :
    readInline (Text.toBytes (Text.withoutNul s) ++ 0 :: rest) =
      .ok (Text.withoutNul s, rest) := by
  have hpos : ∀ b ∈ Text.toBytes (Text.withoutNul s), decide (b ≠ 0) = true :=
    fun b hb => decide_eq_true (Text.ne_zero_of_mem_toBytes_withoutNul hb)
  rw [readInline, List.dropWhile_append_of_pos hpos, List.takeWhile_append_of_pos hpos,
    List.dropWhile_cons_of_neg (by decide), List.takeWhile_cons_of_neg (by decide),
    List.append_nil]
  simp only [readText, Text.ofBytes?_toBytes]
  rfl

theorem readOpaque_write {bs : Bytes} (h : bs.length < 2 ^ 32) (rest : Bytes) :
    readOpaque (MultiByte.write (UInt32.ofNat bs.length) ++ bs ++ rest) = .ok (bs, rest) := by
  have hn : (UInt32.ofNat bs.length).toNat = bs.length := UInt32.toNat_ofNat_of_lt h
  rw [readOpaque, List.append_assoc, MultiByte.read_write]
  change readBytes (UInt32.ofNat bs.length).toNat (bs ++ rest) = _
  rw [hn, readBytes, if_pos (by simp), List.take_left, List.drop_left]

theorem readItems_value {v : Value} (hv : v.Writable) (rest : Bytes) :
    readItems table child (n + 1) ⟨v.encode ++ rest, page⟩ = (do
      let (items, c) ← readItems table child n ⟨rest, page⟩
      .ok (v.withoutNul.item :: items, c)) := by
  cases v with
  | text s =>
    rw [Value.encode, Text.filter_toBytes, List.cons_append, List.append_assoc,
      List.singleton_append, readItems, if_neg (by decide), if_neg (by decide), if_pos rfl,
      readInline_withoutNul]
    rfl
  | bytes bs =>
    rw [Value.encode, List.cons_append, readItems, if_neg (by decide), if_neg (by decide),
      if_neg (by decide), if_neg (by decide), if_neg (by decide), if_pos rfl, readOpaque_write hv]
    rfl

end

/-- The switch that an element needs where a page is in force. -/
def Element.shift (page : UInt8) (e : Element) : Bytes :=
  if e.tag.page = page then [] else [switchPage, e.tag.page]

theorem Element.encodeFrom_eq (page : UInt8) (e : Element) :
    e.encodeFrom page =
      (e.shift page ++ (e.encodeFrom e.tag.page).1, (e.encodeFrom e.tag.page).2) := by
  obtain ⟨tag, value, children⟩ := e
  rw [encodeFrom, encodeFrom, shift]
  simp only [if_true, List.nil_append]
  split <;> rfl

/-- The bytes of an element on its own page, and the page they end on. -/
theorem Element.encodeFrom_page (e : Element) :
    e.encodeFrom e.tag.page =
      if e.hasContent then
        ((e.tag.token ||| contentBit) ::
          (encodeValue e.value ++ ((encodeAll e.tag.page e.children).1 ++ [endOfContent])),
          (encodeAll e.tag.page e.children).2)
      else ([e.tag.token], e.tag.page) := by
  obtain ⟨tag, value, children⟩ := e
  rw [encodeFrom]
  simp only [if_true, List.nil_append, hasContent]
  cases value <;> cases children <;> simp

/-- An element opens with a byte that nothing else in content begins with. -/
theorem Element.exists_encodeFrom_page {e : Element} (h : e.tag.Writable) :
    ∃ b body, (e.encodeFrom e.tag.page).1 = b :: body ∧ ¬b &&& tokenMask < firstTag := by
  rw [encodeFrom_page]
  split_ifs
  · exact ⟨_, _, rfl, by rw [h.byte_with_content.1]; exact UInt8.not_lt.mpr h.1⟩
  · exact ⟨_, _, rfl, by rw [h.byte.1]; exact UInt8.not_lt.mpr h.1⟩

theorem encodeAll_cons (page : UInt8) (e : Element) (es : List Element) :
    encodeAll page (e :: es) =
      (e.shift page ++ ((e.encodeFrom e.tag.page).1 ++
        (encodeAll (e.encodeFrom e.tag.page).2 es).1),
        (encodeAll (e.encodeFrom e.tag.page).2 es).2) := by
  rw [encodeAll, e.encodeFrom_eq page, ← List.append_assoc]

/-- What comes of reading an element that may take up so many levels. -/
def Element.readBack (levels : Nat) (e : Element) (c : Cursor) : Except Error (Element × Cursor) :=
  if e.height < levels then .ok (e.withoutNul, c) else .error .tooDeep

section
variable {table : Bytes} {child : Cursor → Except Error (Element × Cursor)} {levels : Nat}

/-- A switch of the page leaves enough fuel. -/
theorem readItems_shift (table : Bytes) (child : Cursor → Except Error (Element × Cursor))
    {e : Element} {page : UInt8} {bs : Bytes} {fuel : Nat}
    (h : (e.shift page ++ bs).length < fuel) :
    ∃ n, bs.length < n ∧ readItems table child fuel ⟨e.shift page ++ bs, page⟩ =
      readItems table child n ⟨bs, e.tag.page⟩ := by
  unfold Element.shift at h ⊢
  split_ifs at h ⊢ with hp
  · exact ⟨fuel, h, by rw [hp]; rfl⟩
  · obtain ⟨n, rfl⟩ := Nat.exists_eq_add_of_lt h
    refine ⟨_, ?_, readItems_switch e.tag.page bs⟩
    simp only [List.length_append, List.length_cons]
    omega

/-- Elements in a row, if each of them is read back by itself. -/
theorem readItems_encodeAll
    (hchild : ∀ e : Element, e.Writable → ∀ rest, child ⟨(e.encodeFrom e.tag.page).1 ++ rest,
      e.tag.page⟩ = e.readBack levels ⟨rest, (e.encodeFrom e.tag.page).2⟩)
    {es : List Element} (hes : WritableAll es) (page : UInt8) {fuel : Nat} {rest : Bytes}
    (hfuel : ((encodeAll page es).1 ++ endOfContent :: rest).length < fuel) :
    readItems table child fuel ⟨(encodeAll page es).1 ++ endOfContent :: rest, page⟩ =
      if heightAll es ≤ levels then
        .ok ((withoutNulAll es).map .child, ⟨rest, (encodeAll page es).2⟩)
      else .error .tooDeep := by
  induction es generalizing page fuel with
  | nil =>
    obtain ⟨n, rfl⟩ := Nat.exists_eq_add_of_lt hfuel
    exact readItems_end rest
  | cons e es ih =>
    obtain ⟨he, hes⟩ := hes
    have htag : e.tag.Writable := by cases e; exact he.1
    obtain ⟨b, body, hb, hopens⟩ := Element.exists_encodeFrom_page htag
    have hc := hchild e he
    rw [encodeAll_cons] at hfuel ⊢
    generalize e.encodeFrom e.tag.page = out at hb hc hfuel ⊢
    obtain ⟨first, middle⟩ := out
    obtain rfl : first = b :: body := hb
    simp only [List.append_assoc] at hc hfuel ⊢
    obtain ⟨n, hn, hshift⟩ := readItems_shift table child hfuel
    obtain ⟨k, rfl⟩ := Nat.exists_eq_add_of_lt hn
    rw [hshift, List.cons_append, readItems_child hopens, ← List.cons_append, hc, Element.readBack]
    by_cases hlow : e.height < levels
    · rw [if_pos hlow]
      change (readItems table child _ _ >>= _) = _
      rw [ih hes middle (by simp; omega)]
      simp only [heightAll_cons_le, hlow, true_and]
      split_ifs <;> rfl
    · rw [if_neg hlow, if_neg fun h => hlow (heightAll_cons_le.mp h).1]
      rfl

end

/-- The pieces of an element's content, put together again. -/
theorem ofItems_withoutNul (e : Element) :
    Element.ofItems e.tag ((e.value.map fun v => v.withoutNul.item).toList ++
      (withoutNulAll e.children).map .child) = e.withoutNul := by
  obtain ⟨tag, value, children⟩ := e
  have hpieces (es : List Element) : (es.map Item.child).filterMap Item.bytes? = [] ∧
      (es.map Item.child).filterMap Item.text? = [] ∧
      (es.map Item.child).filterMap Item.child? = es := by
    induction es with
    | nil => exact ⟨rfl, rfl, rfl⟩
    | cons e es ih => exact ⟨ih.1, ih.2.1, congrArg (e :: ·) ih.2.2⟩
  obtain ⟨hb, ht, hc⟩ := hpieces (withoutNulAll children)
  simp only [Element.ofItems, Item.value?, List.filterMap_append, hb, ht, hc, List.append_nil]
  rcases value with _ | s | bs
  · rfl
  · have hjoin : String.join [Text.withoutNul s] = Text.withoutNul s := String.empty_append
    exact congrArg (fun t => Element.mk tag (some (.text t)) (withoutNulAll children)) hjoin
  · have hflat : [bs].flatten = bs := List.append_nil bs
    exact congrArg (fun t => Element.mk tag (some (.bytes t)) (withoutNulAll children)) hflat

section
variable {table : Bytes} {child : Cursor → Except Error (Element × Cursor)} {levels : Nat}

/-- The content of an element, if each child is read back by itself. -/
theorem readItems_content
    (hchild : ∀ e : Element, e.Writable → ∀ rest, child ⟨(e.encodeFrom e.tag.page).1 ++ rest,
      e.tag.page⟩ = e.readBack levels ⟨rest, (e.encodeFrom e.tag.page).2⟩)
    {e : Element} (he : e.Writable) {fuel : Nat} {rest : Bytes}
    (hfuel : (encodeValue e.value ++
      ((encodeAll e.tag.page e.children).1 ++ endOfContent :: rest)).length < fuel) :
    readItems table child fuel ⟨encodeValue e.value ++
      ((encodeAll e.tag.page e.children).1 ++ endOfContent :: rest), e.tag.page⟩ =
      if e.height ≤ levels then
        .ok ((e.value.map fun v => v.withoutNul.item).toList ++
          (withoutNulAll e.children).map .child, ⟨rest, (encodeAll e.tag.page e.children).2⟩)
      else .error .tooDeep := by
  obtain ⟨tag, value, children⟩ := e
  obtain ⟨-, hvalue, hchildren⟩ := he
  rw [Element.height]
  cases value with
  | none => exact readItems_encodeAll hchild hchildren tag.page hfuel
  | some v =>
    obtain ⟨n, rfl⟩ := Nat.exists_eq_add_of_lt hfuel
    change readItems table child (_ + 1) ⟨v.encode ++ _, tag.page⟩ = _
    rw [readItems_value (hvalue v rfl), readItems_encodeAll hchild hchildren tag.page]
    · split_ifs <;> rfl
    · simp only [encodeValue, List.length_append]
      have hpos : 0 < v.encode.length := by cases v <;> exact Nat.succ_pos _
      omega

end

/-- An element that has no content is its tag. -/
theorem withoutNul_of_not_hasContent {e : Element} (h : ¬e.hasContent = true) :
    e.withoutNul = .empty e.tag ∧ e.height = 0 := by
  obtain ⟨tag, _ | v, _ | ⟨c, cs⟩⟩ := e
  · exact ⟨rfl, rfl⟩
  all_goals exact absurd rfl h

/-- An element is read back, unless it takes up more levels than there are. -/
theorem readElement_encodeFrom (table : Bytes) (levels : Nat) {e : Element} (he : e.Writable)
    (page : UInt8) (rest : Bytes) :
    readElement table levels ⟨(e.encodeFrom page).1 ++ rest, page⟩ =
      e.readBack levels ⟨rest, (e.encodeFrom page).2⟩ := by
  induction levels generalizing e page rest with
  | zero => rfl
  | succ levels ih =>
    have htag : e.tag.Writable := by cases e; exact he.1
    obtain ⟨b, body, hb, hopens⟩ := Element.exists_encodeFrom_page htag
    have htagByte : readTagByte page ((e.encodeFrom page).1 ++ rest) =
        .ok (b, ⟨body ++ rest, e.tag.page⟩) := by
      have hne : b ≠ switchPage := by
        rintro rfl
        exact hopens (by decide)
      rw [e.encodeFrom_eq page, hb, Element.shift]
      split_ifs with hp
      · rw [hp]
        exact readTagByte_of_ne hne _ _
      · exact (readTagByte_switch page _ _).trans (readTagByte_of_ne hne _ _)
    have hlast : (e.encodeFrom page).2 = (e.encodeFrom e.tag.page).2 := by rw [e.encodeFrom_eq page]
    rw [readElement, htagByte, hlast]
    change (if b &&& tokenMask < firstTag then _ else _) = _
    rw [if_neg hopens]
    by_cases hcontent : e.hasContent = true
    · rw [e.encodeFrom_page, if_pos hcontent] at hb ⊢
      obtain ⟨rfl, rfl⟩ := List.cons.inj hb
      obtain ⟨htoken, hattribute, hbit⟩ := htag.byte_with_content
      rw [if_neg (Decidable.not_not.mpr hattribute), if_neg hbit, htoken]
      simp only [List.append_assoc, List.singleton_append]
      rw [readItems_content (fun e he rest => ih he e.tag.page rest) he (Nat.lt_succ_self _),
        Element.readBack]
      simp only [Nat.lt_succ_iff]
      split_ifs
      · exact congrArg (fun e => Except.ok (e, _)) (ofItems_withoutNul e)
      · rfl
    · rw [e.encodeFrom_page, if_neg hcontent] at hb ⊢
      obtain ⟨rfl, rfl⟩ := List.cons.inj hb
      obtain ⟨htoken, hattribute, hbit⟩ := htag.byte
      obtain ⟨hempty, hheight⟩ := withoutNul_of_not_hasContent hcontent
      rw [if_neg (Decidable.not_not.mpr hattribute), if_pos hbit, htoken, Element.readBack, hheight,
        if_pos (Nat.succ_pos levels), hempty]
      rfl

theorem readHeader_header (bs : Bytes) : readHeader (header ++ bs) = .ok ([], bs) := rfl

theorem Element.Writable.decode_eq {e : Element} (h : e.Writable) :
    decode e.encode = (e.readBack (maxDepth + 1) ⟨[], (e.encodeFrom 0).2⟩).map Prod.fst := by
  have hroot := readElement_encodeFrom [] (maxDepth + 1) h 0 []
  rw [List.append_nil] at hroot
  rw [decode, Element.encode, readHeader_header]
  change (readElement [] (maxDepth + 1) ⟨(e.encodeFrom 0).1, 0⟩ >>= _) = _
  rw [hroot]
  cases e.readBack (maxDepth + 1) ⟨[], (e.encodeFrom 0).2⟩ <;> rfl

/-- A document is read back but for the NUL characters of its texts, unless an element lies deeper
than documents may nest: then reading says so. -/
theorem decode_encode (e : Element) (h : e.Writable) :
    (e.height ≤ maxDepth → decode e.encode = .ok e.withoutNul) ∧
      (maxDepth < e.height → decode e.encode = .error .tooDeep) := by
  rw [h.decode_eq, Element.readBack]
  constructor
  · intro hlow
    rw [if_pos (Nat.lt_succ_of_le hlow)]
    rfl
  · intro hdeep
    rw [if_neg (Nat.not_lt_of_le hdeep)]
    rfl

/-- A value and children under one tag, three pages, and a text with a NUL. -/
def mixed : Element :=
  ⟨⟨0, 0x05⟩, some (.bytes [0x00, 0xFF]),
    [.text ⟨17, 0x3F⟩ "N\x00UL", .node ⟨17, 0x06⟩ [.empty ⟨2, 0x05⟩], .text ⟨0, 0x07⟩ ""]⟩

/-- A chain of elements. -/
def chain : Nat → Element
  | 0 => .empty ⟨0, 0x05⟩
  | n + 1 => .node ⟨0, 0x05⟩ [chain n]

theorem chain_writable (n : Nat) : (chain n).Writable := by
  have htag : Tag.Writable ⟨0, 0x05⟩ := by decide
  induction n with
  | zero => exact ⟨htag, nofun, trivial⟩
  | succ n ih => exact ⟨htag, nofun, ih, trivial⟩

theorem chain_height (n : Nat) : (chain n).height = n := by
  induction n with
  | zero => rfl
  | succ n ih =>
    change max ((chain n).height + 1) 0 = n + 1
    rw [ih]
    omega

/-- A tree of everything is read back without its NUL, a chain of one element too many is not
read. -/
theorem decode_encode_mixed :
    (mixed.Writable ∧ decode mixed.encode = .ok ⟨⟨0, 0x05⟩, some (.bytes [0x00, 0xFF]),
      [.text ⟨17, 0x3F⟩ "NUL", .node ⟨17, 0x06⟩ [.empty ⟨2, 0x05⟩], .text ⟨0, 0x07⟩ ""]⟩) ∧
    ((chain 65).Writable ∧ decode (chain 65).encode = .error .tooDeep) := by
  have hmixed : mixed.Writable := by decide
  exact ⟨⟨hmixed, (decode_encode mixed hmixed).1 (by decide)⟩,
    chain_writable 65,
    (decode_encode (chain 65) (chain_writable 65)).2 (by rw [chain_height]; decide)⟩

end MailSync.Wbxml
