import MailSync.Proofs.Wbxml.Canonical

/-!
# Where a document ends

Content needs its pieces up to the end, an element its tag and its content, a document its header
and its root. So a document that is read ends at one place: whatever stands behind it changes
nothing, and wherever it is cut short the end is missed, also within a child. A document that was
written ends with its last byte.
-/
namespace MailSync.Wbxml

/-! ### Content -/

section
variable {table : Bytes} {child : Cursor → Except Error (Element × Cursor)}

/-- One step through content: over a switch of the page, or over an item. -/
def readPiece (table : Bytes) (child : Cursor → Except Error (Element × Cursor)) (page : UInt8) :
    Bytes → Except Error (Option Item × Cursor)
  | [] => .error .unexpectedEnd
  | b :: rest =>
    if b = switchPage then do
      let (p, rest) ← readByte rest
      .ok (none, ⟨rest, p⟩)
    else if b = inlineString then do
      let (s, rest) ← readInline rest
      .ok (some (.text s), ⟨rest, page⟩)
    else if b = tableString then do
      let (s, rest) ← readReference table rest
      .ok (some (.text s), ⟨rest, page⟩)
    else if b = Wbxml.entity then do
      let (s, rest) ← readEntity rest
      .ok (some (.text s), ⟨rest, page⟩)
    else if b = opaqueData then do
      let (bs, rest) ← readOpaque rest
      .ok (some (.bytes bs), ⟨rest, page⟩)
    else if b &&& tokenMask < firstTag then .error (.unsupportedToken b)
    else do
      let (e, c) ← child ⟨b :: rest, page⟩
      .ok (some (.child e), c)

/-- Content is read to its end piece by piece. -/
theorem readItems_eq_readPiece (fuel : Nat) (b : UInt8) (rest : Bytes) (page : UInt8) :
    readItems table child (fuel + 1) ⟨b :: rest, page⟩ =
      if b = endOfContent then .ok ([], ⟨rest, page⟩)
      else (do
        let (piece, c) ← readPiece table child page (b :: rest)
        let (items, c) ← readItems table child fuel c
        .ok (piece.toList ++ items, c)) := by
  by_cases hend : b = endOfContent
  · subst hend
    exact readItems_end rest
  · rw [if_neg hend]
    simp only [readItems, readPiece, if_neg hend]
    split_ifs
    · cases readByte rest with
      | error _ => rfl
      | ok x =>
        obtain ⟨p, rest⟩ := x
        change readItems table child fuel ⟨rest, p⟩ = readItems table child fuel ⟨rest, p⟩ >>= _
        cases readItems table child fuel ⟨rest, p⟩ <;> rfl
    · cases readInline rest <;> rfl
    · cases readReference table rest <;> rfl
    · cases readEntity rest <;> rfl
    · cases readOpaque rest <;> rfl
    · rfl
    · cases child ⟨b :: rest, page⟩ <;> rfl

/-- A reader of a child that takes what it needs on any page, and that is a byte at least. -/
structure FramesChild (child : Cursor → Except Error (Element × Cursor)) : Prop where
  frames : ∀ page, Frames fun bs => child ⟨bs, page⟩
  fails : ∀ page x, child ⟨[], page⟩ ≠ .ok x

theorem frames_readPiece (hchild : FramesChild child) (page : UInt8) :
    Frames (readPiece table child page) := by
  apply Frames.cons rfl
  intro b
  simp only [readPiece]
  apply Frames.ite
  · intro _
    exact .bind frames_readByte fun x => .pure_at none x.1
  intro _
  apply Frames.ite
  · intro _
    exact .bind frames_readInline fun x => .pure_at (some (Item.text x.1)) page
  intro _
  apply Frames.ite
  · intro _
    exact .bind (frames_readReference table) fun x => .pure_at (some (Item.text x.1)) page
  intro _
  apply Frames.ite
  · intro _
    exact .bind frames_readEntity fun x => .pure_at (some (Item.text x.1)) page
  intro _
  apply Frames.ite
  · intro _
    exact .bind frames_readOpaque fun x => .pure_at (some (Item.bytes x.1)) page
  intro _
  apply Frames.ite
  · intro _
    exact .throw _
  intro _
  apply Frames.bind ((hchild.frames page).tail (hchild.fails page) b)
  · intro x
    exact .pure_at (some (Item.child x.1)) x.2.page

/-- Content needs these bytes. The fuel has to last for all of them, but without it nothing else is
missed than the end. -/
structure ContentNeeds (table : Bytes) (child : Cursor → Except Error (Element × Cursor))
    (taken : Bytes) (page : UInt8) (items : List Item) (last : UInt8) : Prop where
  reads : ∀ fuel more, taken.length ≤ fuel →
    readItems table child fuel ⟨taken ++ more, page⟩ = .ok (items, ⟨more, last⟩)
  misses : ∀ fuel, Misses (fun bs => readItems table child fuel ⟨bs, page⟩) taken

theorem readItems_nil (fuel : Nat) (page : UInt8) :
    readItems table child fuel ⟨[], page⟩ = .error .unexpectedEnd := by
  cases fuel <;> rfl

theorem contentNeeds_end (page : UInt8) : ContentNeeds table child [endOfContent] page [] page where
  reads fuel more hfuel := by
    obtain ⟨fuel, rfl⟩ := Nat.exists_eq_add_of_lt hfuel
    exact readItems_end more
  misses fuel := .cons (readItems_nil fuel page) fun k hk => absurd hk k.not_lt_zero

/-- A piece is needed, and then what the content needs behind it. -/
theorem ContentNeeds.piece {b : UInt8} {taken behind : Bytes} {page between last : UInt8}
    {piece : Option Item} {items : List Item} (hb : b ≠ endOfContent)
    (h : Needs (readPiece table child page) (b :: taken) fun more => (piece, ⟨more, between⟩))
    (hrest : ContentNeeds table child behind between items last) :
    ContentNeeds table child (b :: (taken ++ behind)) page (piece.toList ++ items) last where
  reads fuel more hfuel := by
    obtain ⟨fuel, rfl⟩ := Nat.exists_eq_add_of_lt hfuel
    rw [List.cons_append, readItems_eq_readPiece, if_neg hb, List.append_assoc, h.tail.reads]
    change readItems table child _ ⟨behind ++ more, between⟩ >>= _ = _
    rw [hrest.reads _ more (by rw [List.length_append]; omega)]
    rfl
  misses fuel := by
    apply Misses.cons (readItems_nil fuel page)
    cases fuel with
    | zero => exact fun _ _ => rfl
    | succ fuel =>
      simp only [readItems_eq_readPiece, if_neg hb]
      exact h.tail.misses_bind 
        ((hrest.misses fuel).bind fun x => .ok (piece.toList ++ x.1, x.2))

theorem contentNeeds_of_readItems (hchild : FramesChild child) {fuel : Nat} {bs : Bytes}
    {page : UInt8} {items : List Item} {c : Cursor}
    (h : readItems table child fuel ⟨bs, page⟩ = .ok (items, c)) :
    ∃ taken, bs = taken ++ c.rest ∧ ContentNeeds table child taken page items c.page := by
  -- On the fuel: each step is the end or a piece.
  induction fuel generalizing bs page items with
  | zero => cases h
  | succ fuel ih =>
    cases bs with
    | nil => cases h
    | cons b bs =>
      rw [readItems_eq_readPiece] at h
      split_ifs at h with hb
      · cases h
        subst hb
        exact ⟨[endOfContent], rfl, contentNeeds_end page⟩
      · obtain ⟨⟨piece, c₁⟩, hpiece, h⟩ := bind_eq_ok_iff.mp h
        obtain ⟨⟨others, c₂⟩, hothers, h⟩ := bind_eq_ok_iff.mp h
        cases h
        obtain ⟨behind, hrest, hbehind⟩ := ih hothers
        obtain ⟨taken, hbs, hneeds⟩ := frames_readPiece hchild page hpiece
        cases taken with
        | nil => cases hneeds.reads []
        | cons b' taken =>
          obtain ⟨rfl, rfl⟩ := List.cons.inj hbs
          refine ⟨b :: (taken ++ behind), ?_, .piece hb hneeds hbehind⟩
          rw [List.cons_append, List.append_assoc, ← hrest]
          rfl

/-- With fuel for every byte that is left, content is read like anything else. -/
theorem frames_content (hchild : FramesChild child) (page : UInt8) :
    Frames fun bs => readItems table child (bs.length + 1) ⟨bs, page⟩ := by
  intro bs x h
  obtain ⟨taken, hbs, hneeds⟩ := contentNeeds_of_readItems hchild h
  refine ⟨taken, hbs, fun more => ?_, fun k hk => hneeds.misses _ k hk⟩
  apply hneeds.reads
  rw [List.length_append]
  omega

end

theorem framesChild_readElement (table : Bytes) (levels : Nat) :
    FramesChild (readElement table levels) := by
  induction levels with
  | zero => exact ⟨fun _ => .throw _, fun _ _ h => nomatch h⟩
  | succ levels ih =>
    refine ⟨fun page => ?_, fun _ _ h => nomatch h⟩
    simp only [readElement]
    apply Frames.bind (frames_readTagByte page)
    rintro ⟨b, c⟩
    simp only [Leaves.withRest]
    apply Frames.ite
    · intro _
      exact .throw _
    intro _
    apply Frames.ite
    · intro _
      exact .throw _
    intro _
    apply Frames.ite
    · intro _
      exact .pure_at (Element.empty ⟨c.page, b &&& tokenMask⟩) c.page
    intro _
    apply Frames.bind (frames_content ih c.page)
    intro x
    exact .pure_at (Element.ofItems ⟨c.page, b &&& tokenMask⟩ x.1) x.2.page

/-! ### Documents -/

/-- A document needs what is in front of the bytes that its root leaves. -/
theorem needs_decode {bs table rest : Bytes} {e : Element} {c : Cursor}
    (hheader : readHeader bs = .ok (table, rest))
    (hroot : readElement table (maxDepth + 1) ⟨rest, 0⟩ = .ok (e, c)) :
    ∃ taken, bs = taken ++ c.rest ∧ Needs decode taken fun _ => e := by
  obtain ⟨taken, hbs, hneeds⟩ := frames_readHeader hheader
  obtain ⟨behind, hrest, hneeds'⟩ := (framesChild_readElement table _).frames 0 hroot
  refine ⟨taken ++ behind, ?_, hneeds.bind (hneeds'.map Prod.fst)⟩
  rw [hbs, List.append_assoc]
  exact congrArg _ hrest

/-- Every document that is read has one place where it ends: whatever stands behind it, the same
element is read, and cut short anywhere in front of it, reading fails for want of bytes and for
nothing else. A document that was written ends with its last byte. -/
theorem truncation_is_detected :
    (∀ bs e, decode bs = .ok e → ∃! n, n ≤ bs.length ∧
      (∀ more, decode (bs.take n ++ more) = .ok e) ∧
      ∀ k < n, decode (bs.take k) = .error .unexpectedEnd) ∧
    ∀ x : Element, x.Writable → x.height ≤ maxDepth →
      (∀ more, decode (x.encode ++ more) = .ok x.withoutNul) ∧
      ∀ k < x.encode.length, decode (x.encode.take k) = .error .unexpectedEnd := by
  constructor
  · intro bs e h
    obtain ⟨⟨table, rest⟩, hheader, h⟩ := bind_eq_ok_iff.mp h
    obtain ⟨⟨root, c⟩, hroot, h⟩ := bind_eq_ok_iff.mp h
    cases h
    obtain ⟨taken, rfl, hneeds⟩ := needs_decode hheader hroot
    have htake {k : Nat} (hk : k ≤ taken.length) : (taken ++ c.rest).take k = taken.take k :=
      List.take_append_of_le_length hk
    refine ⟨taken.length, ⟨?_, ?_, ?_⟩, ?_⟩
    · rw [List.length_append]
      exact Nat.le_add_right ..
    · rw [htake le_rfl, List.take_length]
      exact hneeds.reads
    · intro k hk
      rw [htake hk.le]
      exact hneeds.misses k hk
    · -- Of two such places the nearer one would be a cut in front of the farther one.
      rintro m ⟨-, hreads, hmisses⟩
      have hread := hreads []
      rw [List.append_nil] at hread
      apply Nat.le_antisymm
      · apply Nat.le_of_not_lt
        intro hlt
        have hcut := hmisses _ hlt
        rw [htake le_rfl, List.take_length, ← List.append_nil taken, hneeds.reads] at hcut
        cases hcut
      · apply Nat.le_of_not_lt
        intro hlt
        rw [htake hlt.le, hneeds.misses m hlt] at hread
        cases hread
  · intro x hx hlow
    have hroot := readElement_encodeFrom [] (maxDepth + 1) hx 0 []
    rw [List.append_nil, Element.readBack, if_pos (Nat.lt_succ_of_le hlow)] at hroot
    obtain ⟨taken, hbs, hneeds⟩ := needs_decode (readHeader_header _) hroot
    rw [List.append_nil] at hbs
    rw [Element.encode, hbs]
    exact ⟨hneeds.reads, hneeds.misses⟩

/-- The root of a document that uses everything, with one byte behind it. -/
def looseRoot : Element :=
  .node ⟨0, 0x05⟩ [.text ⟨0, 0x06⟩ "cd\x00x", .bytes ⟨17, 0x3F⟩ [0xFF, 0x00]]

theorem loose_ends_before_last :
    decode loose = .ok looseRoot ∧
    (∃! n, n ≤ loose.length ∧ (∀ more, decode (loose.take n ++ more) = .ok looseRoot) ∧
      ∀ k < n, decode (loose.take k) = .error .unexpectedEnd) ∧
    loose.length = 44 ∧ decode (loose.take 43) = .ok looseRoot ∧
    decode (loose.take 42) = .error .unexpectedEnd ∧
    mixed.Writable ∧ mixed.height ≤ maxDepth ∧
      (∀ more, decode (mixed.encode ++ more) = .ok mixed.withoutNul) ∧
      ∀ k < mixed.encode.length, decode (mixed.encode.take k) = .error .unexpectedEnd := by
  have hread : decode loose = .ok looseRoot := by rfl
  have hmixed : mixed.Writable := by decide
  have hlow : mixed.height ≤ maxDepth := by decide
  exact ⟨hread, truncation_is_detected.1 loose _ hread, by rfl, by rfl, by rfl, hmixed, hlow,
    truncation_is_detected.2 mixed hmixed hlow⟩

end MailSync.Wbxml
