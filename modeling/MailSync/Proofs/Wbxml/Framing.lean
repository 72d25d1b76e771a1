import Mathlib.Data.List.TakeWhile
import MailSync.Proofs.Wbxml.RoundTrip

/-!
# What a reader needs

A reader that succeeds has needed some bytes at the front and no more. Whatever stands behind them,
it comes to the same and leaves that; and where they are cut short, it misses the end and says
nothing else, be it in the middle of a number, a text, the table or a page switch.
-/
namespace MailSync

theorem bind_eq_ok_iff {ε α β : Type} {x : Except ε α} {f : α → Except ε β} {b : β} :
    x >>= f = .ok b ↔ ∃ a, x = .ok a ∧ f a = .ok b := by
  cases x with
  | ok a => exact ⟨fun h => ⟨a, rfl, h⟩, fun ⟨_, ha, h⟩ => Except.ok.inj ha ▸ h⟩
  | error e => exact ⟨fun h => (nomatch h), fun ⟨_, ha, _⟩ => (nomatch ha)⟩

theorem toOption_eq_some_iff {ε α : Type} {x : Except ε α} {a : α} :
    x.toOption = some a ↔ x = .ok a := by
  cases x with
  | ok b => simp [Except.toOption]
  | error e => simp [Except.toOption]

theorem bind_eq_error_iff {ε α β : Type} {x : Except ε α} {f : α → Except ε β} {e : ε} :
    x >>= f = .error e ↔ x = .error e ∨ ∃ a, x = .ok a ∧ f a = .error e := by
  cases x with
  | error e' =>
    constructor
    · exact fun h => .inl (congrArg _ (Except.error.inj h))
    · rintro (h | ⟨_, h, _⟩)
      · exact congrArg _ (Except.error.inj h)
      · cases h
  | ok a =>
    constructor
    · exact fun h => .inr ⟨a, rfl, h⟩
    · rintro (h | ⟨_, h, hf⟩)
      · cases h
      · exact Except.ok.inj h ▸ hf

namespace Wbxml

/-! ### Bytes that are needed -/

/-- Where the bytes are cut short, the reader misses the end of them. -/
def Misses {β : Type} (read : Bytes → Except Error β) (taken : Bytes) : Prop :=
  ∀ k < taken.length, read (taken.take k) = .error .unexpectedEnd

/-- A reader needs these bytes and no more: with anything behind them it gives a result, which may
have what is behind them in it, and where they are cut short it misses the end. -/
structure Needs {β : Type} (read : Bytes → Except Error β) (taken : Bytes) (result : Bytes → β) :
    Prop where
  reads : ∀ more, read (taken ++ more) = .ok (result more)
  misses : Misses read taken

section
variable {α β : Type} {read : Bytes → Except Error α} {next : α → Except Error β}
  {taken behind : Bytes} {middle : Bytes → α} {result : Bytes → β} {b : UInt8}

theorem Misses.cons (hnil : read [] = .error .unexpectedEnd)
    (h : Misses (fun bs => read (b :: bs)) taken) : Misses read (b :: taken) := by
  intro k hk
  cases k with
  | zero => exact hnil
  | succ k => exact h k (Nat.lt_of_succ_lt_succ hk)

theorem Misses.bind (h : Misses read taken) (next : α → Except Error β) :
    Misses (fun bs => read bs >>= next) taken := by
  intro k hk
  change read _ >>= next = _
  rw [h k hk]
  rfl

/-- A cut falls into the bytes of the first reader or into those of the next. -/
theorem Needs.misses_bind (h : Needs read taken middle)
    (hnext : Misses (fun bs => next (middle bs)) behind) :
    Misses (fun bs => read bs >>= next) (taken ++ behind) := by
  intro k hk
  rw [List.take_append]
  by_cases hlt : k < taken.length
  · rw [Nat.sub_eq_zero_of_le hlt.le, List.take_zero, List.append_nil]
    exact h.misses.bind next k hlt
  · change read _ >>= next = _
    rw [List.take_of_length_le (Nat.le_of_not_lt hlt), h.reads]
    apply hnext
    rw [List.length_append] at hk
    omega

namespace Needs

theorem nil (h : ∀ bs, read bs = .ok (middle bs)) : Needs read [] middle :=
  ⟨h, fun k hk => absurd hk k.not_lt_zero⟩

theorem cons (hnil : read [] = .error .unexpectedEnd)
    (h : Needs (fun bs => read (b :: bs)) taken middle) : Needs read (b :: taken) middle :=
  ⟨h.reads, .cons hnil h.misses⟩

theorem tail (h : Needs read (b :: taken) middle) :
    Needs (fun bs => read (b :: bs)) taken middle :=
  ⟨h.reads, fun k hk => h.misses (k + 1) (Nat.succ_lt_succ hk)⟩

theorem bind (h : Needs read taken middle)
    (hnext : Needs (fun bs => next (middle bs)) behind result) :
    Needs (fun bs => read bs >>= next) (taken ++ behind) result := by
  refine ⟨fun more => ?_, h.misses_bind hnext.misses⟩
  rw [List.append_assoc, h.reads]
  exact hnext.reads more

theorem map (h : Needs read taken middle) (f : α → β) :
    Needs (fun bs => read bs >>= fun x => .ok (f x)) taken fun more => f (middle more) := by
  refine ⟨fun more => ?_, h.misses.bind _⟩
  rw [h.reads]
  rfl

end Needs
end

/-! ### Readers of bytes -/

/-- A result with bytes in it that are left to read, and may be others. -/
class Leaves (β : Type) where
  rest : β → Bytes
  withRest : β → Bytes → β
  withRest_rest : ∀ x, withRest x (rest x) = x

instance {α : Type} : Leaves (α × Bytes) where
  rest := Prod.snd
  withRest x bs := (x.1, bs)
  withRest_rest _ := rfl

instance {α : Type} : Leaves (α × Cursor) where
  rest x := x.2.rest
  withRest x bs := (x.1, ⟨bs, x.2.page⟩)
  withRest_rest _ := rfl

/-- A reader that takes what it needs from the front, and leaves what is behind that. -/
def Frames {β : Type} [Leaves β] (read : Bytes → Except Error β) : Prop :=
  ∀ ⦃bs x⦄, read bs = .ok x →
    ∃ taken, bs = taken ++ Leaves.rest x ∧ Needs read taken (Leaves.withRest x)

namespace Frames
section
variable {α β γ : Type} [Leaves α] [Leaves β] {read : Bytes → Except Error α}
  {next : α → Except Error β}

/-- No more is left than was given. -/
theorem length_le (h : Frames read) {bs : Bytes} {x : α} (hread : read bs = .ok x) :
    (Leaves.rest x).length ≤ bs.length := by
  obtain ⟨taken, rfl, -⟩ := h hread
  rw [List.length_append]
  exact Nat.le_add_left ..

theorem throw (error : Error) : Frames fun _ => (.error error : Except Error α) :=
  fun _ _ h => nomatch h

theorem cons (hnil : read [] = .error .unexpectedEnd) (h : ∀ b, Frames fun bs => read (b :: bs)) :
    Frames read := by
  intro bs x hread
  cases bs with
  | nil =>
    rw [hnil] at hread
    cases hread
  | cons b bs =>
    obtain ⟨taken, rfl, hneeds⟩ := h b hread
    exact ⟨b :: taken, rfl, hneeds.cons hnil⟩

/-- A reader that needs a byte at least goes on in the same way behind it. -/
theorem tail (h : Frames read) (hnil : ∀ x, read [] ≠ .ok x) (b : UInt8) :
    Frames fun bs => read (b :: bs) := by
  intro bs x hread
  obtain ⟨taken, hbs, hneeds⟩ := h hread
  cases taken with
  | nil => exact absurd (hneeds.reads []) (hnil _)
  | cons c taken =>
    obtain ⟨rfl, hrest⟩ := List.cons.inj hbs
    exact ⟨taken, hrest, hneeds.tail⟩

theorem bind (h : Frames read) (hnext : ∀ x, Frames fun bs => next (Leaves.withRest x bs)) :
    Frames fun bs => read bs >>= next := by
  intro bs y hread
  obtain ⟨x, hx, hy⟩ := bind_eq_ok_iff.mp hread
  obtain ⟨taken, hbs, hneeds⟩ := h hx
  rw [← Leaves.withRest_rest x] at hy
  obtain ⟨behind, hrest, hneeds'⟩ := hnext x hy
  refine ⟨taken ++ behind, ?_, hneeds.bind hneeds'⟩
  rw [List.append_assoc, ← hrest, hbs]

/-- What is computed without reading changes nothing about what is needed. -/
theorem compute (x : Except Error γ) {next : γ → Bytes → Except Error β}
    (hnext : ∀ a, Frames (next a)) : Frames fun bs => x >>= fun a => next a bs := by
  cases x with
  | error error => exact throw error
  | ok a => exact hnext a

theorem ite {c : Prop} [Decidable c] {read' : Bytes → Except Error α} (h : c → Frames read)
    (h' : ¬c → Frames read') : Frames fun bs => if c then read bs else read' bs := by
  split_ifs with hc
  · exact h hc
  · exact h' hc

end

theorem pure {α : Type} (a : α) : Frames fun bs => .ok (a, bs) :=
  fun bs x h => by cases h; exact ⟨[], rfl, .nil fun _ => rfl⟩

theorem pure_at {α : Type} (a : α) (page : UInt8) :
    Frames fun bs => .ok (a, (⟨bs, page⟩ : Cursor)) :=
  fun bs x h => by cases h; exact ⟨[], rfl, .nil fun _ => rfl⟩

end Frames

theorem frames_readByte : Frames readByte := .cons rfl .pure

theorem frames_readBytes (n : Nat) : Frames (readBytes n) := by
  intro bs x h
  unfold readBytes at h
  split_ifs at h with hn
  cases h
  refine ⟨bs.take n, (List.take_append_drop n bs).symm, fun more => ?_, fun k hk => ?_⟩
  · have hlength : (bs.take n).length = n := List.length_take_of_le hn
    rw [readBytes, if_pos (by rw [List.length_append]; omega), List.take_left' hlength,
      List.drop_left' hlength]
    rfl
  · rw [List.length_take] at hk
    rw [readBytes, if_neg]
    rw [List.length_take, List.length_take]
    omega

theorem MultiByte.frames_readGroups (n : Nat) (v : UInt32) : Frames (readGroups n v) := by
  induction n generalizing v with
  | zero => exact .throw _
  | succ n ih =>
    apply Frames.cons rfl
    intro b
    simp only [readGroups]
    exact .ite (fun _ => .throw _) fun _ => .ite (fun _ => .pure _) fun _ => ih _

theorem MultiByte.frames_read : Frames MultiByte.read := frames_readGroups 5 0

/-- A text is needed with the zero byte behind it. Cut short it has none. -/
theorem frames_readInline : Frames readInline := by
  intro bs x h
  unfold readInline at h
  split at h
  · cases h
  · next b rest hrest =>
    obtain ⟨s, hs, h⟩ := bind_eq_ok_iff.mp h
    cases h
    have hpos : ∀ b ∈ bs.takeWhile (· ≠ 0), decide (b ≠ 0) = true := by
      intro b hb
      exact List.mem_takeWhile_imp (p := fun b : UInt8 => decide (b ≠ 0)) hb
    obtain rfl : b = 0 := by
      have hfirst := List.head?_dropWhile_not (fun b : UInt8 => decide (b ≠ 0)) bs
      rw [hrest] at hfirst
      simpa using hfirst
    have hbs : bs = bs.takeWhile (· ≠ 0) ++ [0] ++ rest := by
      rw [List.append_assoc, List.singleton_append, ← hrest, List.takeWhile_append_dropWhile]
    generalize bs.takeWhile (· ≠ 0) = text at hs hpos hbs
    refine ⟨text ++ [0], hbs, fun more => ?_, fun k hk => ?_⟩
    · rw [List.append_assoc, List.singleton_append, readInline,
        List.dropWhile_append_of_pos hpos, List.takeWhile_append_of_pos hpos,
        List.dropWhile_cons_of_neg (by decide), List.takeWhile_cons_of_neg (by decide),
        List.append_nil]
      simp only [hs]
      rfl
    · have hk : k ≤ text.length := by simpa [Nat.lt_succ_iff] using hk
      rw [List.take_append_of_le_length hk, readInline, List.dropWhile_eq_nil_iff.mpr]
      exact fun b hb => hpos b (List.mem_of_mem_take hb)

theorem frames_readReference (table : Bytes) : Frames (readReference table) :=
  .bind MultiByte.frames_read fun _ =>
    .ite (fun _ => .compute _ fun _ => .pure _) fun _ => .throw _

theorem frames_readEntity : Frames readEntity := by
  apply Frames.bind MultiByte.frames_read
  rintro ⟨code, _⟩
  by_cases h : code.isValidChar
  · simp only [Leaves.withRest, dif_pos h]
    exact .pure (String.singleton ⟨code, h⟩)
  · simp only [Leaves.withRest, dif_neg h]
    exact .throw _

theorem frames_readOpaque : Frames readOpaque :=
  .bind MultiByte.frames_read fun _ => frames_readBytes _

theorem frames_readHeader : Frames readHeader := by
  apply Frames.bind frames_readByte
  intro _
  apply Frames.bind MultiByte.frames_read
  rintro ⟨publicId, _⟩
  -- Behind the reference that may follow the public identifier, all goes on in one way.
  have htable : Frames fun bs => MultiByte.read bs >>= fun charset =>
      MultiByte.read charset.2 >>= fun size => readBytes size.1.toNat size.2 :=
    .bind MultiByte.frames_read fun _ => .bind MultiByte.frames_read fun size =>
      frames_readBytes size.1.toNat
  by_cases h : publicId = 0
  · simp only [Leaves.withRest, if_pos h, map_eq_pure_bind, bind_assoc, pure_bind]
    exact .bind MultiByte.frames_read fun _ => htable
  · simp only [Leaves.withRest, if_neg h]
    exact htable

theorem frames_readTagByte (page : UInt8) : Frames (readTagByte page) := by
  intro bs x h
  fun_induction readTagByte page bs with
  | case1 => cases h
  | case2 => cases h
  | case3 page b hb =>
    cases h
    refine ⟨[b], rfl, .cons rfl (.nil fun more => ?_)⟩
    exact readTagByte_of_ne hb page more
  | case4 page p rest ih =>
    obtain ⟨taken, hrest, hneeds⟩ := ih h
    refine ⟨switchPage :: p :: taken, by rw [hrest]; rfl, .cons rfl (.cons rfl ?_)⟩
    simp only [readTagByte_switch]
    exact hneeds
  | case5 page b p rest hb =>
    cases h
    refine ⟨[b], rfl, .cons rfl (.nil fun more => ?_)⟩
    exact readTagByte_of_ne hb page more

end Wbxml
end MailSync
