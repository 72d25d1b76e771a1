import Mathlib.Algebra.Group.Nat.Even
import MailSync.Address
import MailSync.Proofs.Text.Trimming

/-!
# Lists of addresses, written and read back

Outside double quotes a comma cuts a list in two, each half to be read by itself. An address that is
written in canonical form has none outside its quotes and reads back as it was, whatever separators
and brackets its name has; so does a list of such addresses.
-/
namespace MailSync.Address
open Text (Trimmed isBlank stripEnds trim)

/-- What separates the entries of a list and the parts of an entry. -/
def marks : List Char := [',', ';', '"', '<', '>']

/-- An address that has one written form: the name says something and can be put in quotes, and
nothing in the email is taken for a part of the list. -/
def Canonical (a : Address) : Prop :=
  (∀ name ∈ a.name, name ≠ "" ∧ Trimmed name ∧ '"' ∉ name.toList) ∧
    a.email ≠ "" ∧ Trimmed a.email ∧ ∀ c ∈ marks, c ∉ a.email.toList

instance (a : Address) : Decidable a.Canonical :=
  -- By the marks: characters are finitely many, but too many to go through.
  have : Decidable (∀ c ∈ marks, c ∉ a.email.toList) := List.decidableBAll _ marks
  inferInstanceAs (Decidable (_ ∧ _))

/-! ### Pieces -/

theorem exists_pieces (q : Bool) (cs : List Char) : ∃ p ps, pieces q cs = p :: ps := by
  cases cs with
  | nil => exact ⟨_, _, rfl⟩
  | cons c cs =>
    rw [pieces]
    split_ifs
    · exact ⟨_, _, rfl⟩
    all_goals split <;> exact ⟨_, _, rfl⟩

/-- A character that separates nothing goes to the first piece. -/
theorem pieces_cons {q : Bool} {c : Char} {cs p : List Char} {ps : List (List Char)}
    (hc : ¬((c = ',' ∨ c = ';') ∧ q = false))
    (h : pieces (if c = '"' then !q else q) cs = p :: ps) :
    pieces q (c :: cs) = (c :: p) :: ps := by
  rw [pieces, if_neg hc, h]

/-- A comma cuts the text in two if it stands outside quotes: behind an even number of them, for a
text that starts outside. -/
theorem pieces_append_comma {q : Bool} {cs : List Char} (h : q = false ↔ Even (cs.count '"'))
    (ds : List Char) : pieces q (cs ++ ',' :: ds) = pieces q cs ++ pieces false ds := by
  -- On the text before the comma: whether it starts in quotes is the parity of those in it.
  induction cs generalizing q with
  | nil =>
    obtain rfl : q = false := h.mpr Even.zero
    rfl
  | cons c cs ih =>
    have hstate : (if c = '"' then !q else q) = false ↔ Even (cs.count '"') := by
      rw [List.count_cons] at h
      by_cases hc : c = '"'
      · simp only [hc, beq_self_eq_true, if_true, Nat.even_add_one] at h ⊢
        cases q <;> simp_all
      · simpa only [beq_iff_eq, hc, if_false, Nat.add_zero] using h
    have hrest := ih hstate
    by_cases hc : (c = ',' ∨ c = ';') ∧ q = false
    · have hnext : (if c = '"' then !q else q) = false := by
        rw [if_neg (by rcases hc.1 with rfl | rfl <;> decide), hc.2]
      rw [hnext] at hrest
      rw [List.cons_append, pieces, if_pos hc, hrest, pieces, if_pos hc, List.cons_append]
    · obtain ⟨p, ps, hp⟩ := exists_pieces (if c = '"' then !q else q) cs
      rw [hp, List.cons_append] at hrest
      rw [List.cons_append, pieces_cons hc hrest, pieces_cons hc hp, List.cons_append]

/-- Within quotes, or without separators, characters all go to the first piece. -/
theorem pieces_append {q : Bool} {cs rest p : List Char} {ps : List (List Char)}
    (hquotes : '"' ∉ cs) (hsep : q = false → ',' ∉ cs ∧ ';' ∉ cs) (h : pieces q rest = p :: ps) :
    pieces q (cs ++ rest) = (cs ++ p) :: ps := by
  induction cs with
  | nil => exact h
  | cons c cs ih =>
    have hrest := ih (fun hm => hquotes (List.mem_cons_of_mem c hm)) fun hq =>
      ⟨fun hm => (hsep hq).1 (List.mem_cons_of_mem c hm),
        fun hm => (hsep hq).2 (List.mem_cons_of_mem c hm)⟩
    have hc : c ≠ '"' := fun hc => hquotes (hc ▸ List.mem_cons_self)
    refine pieces_cons ?_ ((congrArg (pieces · (cs ++ rest)) (if_neg hc)).trans hrest)
    rintro ⟨rfl | rfl, hq⟩
    · exact (hsep hq).1 List.mem_cons_self
    · exact (hsep hq).2 List.mem_cons_self

theorem parseList_append_comma {cs : List Char} (h : Even (cs.count '"')) (ds : List Char) :
    parseList (cs ++ ',' :: ds) = parseList cs ++ parseList ds := by
  rw [parseList, pieces_append_comma ⟨fun _ => h, fun _ => rfl⟩, List.filter_append,
    List.map_append]
  rfl

/-- Blanks in front of a list say nothing. -/
theorem parseList_cons_blank {c : Char} (hc : isBlank c = true) (cs : List Char) :
    parseList (c :: cs) = parseList cs := by
  have hquote : c ≠ '"' := by rintro rfl; exact absurd hc (by decide)
  have hsep : ¬((c = ',' ∨ c = ';') ∧ false = false) := by
    rintro ⟨rfl | rfl, -⟩ <;> exact absurd hc (by decide)
  obtain ⟨p, ps, hp⟩ := exists_pieces false cs
  have hcons : pieces false (c :: cs) = (c :: p) :: ps :=
    pieces_cons hsep (by rw [if_neg hquote, hp])
  have hparse : parse (c :: p) = parse p := by
    unfold parse
    rw [trim, Text.stripEnds_cons hc, ← trim]
  simp only [parseList, hcons, hp, List.filter_cons, List.all_cons, hc, Bool.true_and]
  split_ifs
  · rw [List.map_cons, List.map_cons, hparse]
  · rfl

/-! ### Entries -/

theorem splitLast?_of_notMem {c : Char} {cs : List Char} (h : c ∉ cs) : splitLast? c cs = none := by
  induction cs with
  | nil => rfl
  | cons d cs ih =>
    have hd : d ≠ c := fun hd => h (hd ▸ List.mem_cons_self)
    rw [splitLast?, ih fun hm => h (List.mem_cons_of_mem d hm)]
    exact if_neg hd

theorem splitLast?_append {c : Char} {behind : List Char} (h : c ∉ behind) (before : List Char) :
    splitLast? c (before ++ c :: behind) = some (before, behind) := by
  induction before with
  | nil =>
    rw [List.nil_append, splitLast?, splitLast?_of_notMem h]
    exact if_pos rfl
  | cons d before ih => rw [List.cons_append, splitLast?, ih]

/-- A name is read out of its quotes. -/
theorem displayName?_quotes {name : String} (hne : name ≠ "") (htrim : Trimmed name)
    (hquotes : '"' ∉ name.toList) :
    displayName? ('"' :: (name.toList ++ ['"', ' '])) = some name := by
  have hblank : trim ('"' :: (name.toList ++ ['"', ' '])) = '"' :: (name.toList ++ ['"']) := by
    have hsplit : '"' :: (name.toList ++ ['"', ' ']) =
        ('"' :: (name.toList ++ ['"'])) ++ [' '] := by simp
    rw [hsplit, trim, Text.stripEnds_concat rfl, Text.stripEnds_of_ends rfl rfl]
  have hinside : stripEnds (· = '"') ('"' :: (name.toList ++ ['"'])) = name.toList := by
    rw [Text.stripEnds_cons rfl, Text.stripEnds_concat rfl]
    refine Text.stripEnds_of_forall fun c hc => decide_eq_false ?_
    rintro rfl
    exact hquotes hc
  have hname : trim name.toList = name.toList := htrim
  have hnil : name.toList ≠ [] := fun h => hne (String.toList_eq_nil_iff.mp h)
  rw [displayName?, hblank, hinside]
  simp only [hname, if_neg hnil, String.ofList_toList]

theorem quoted_some (name email : String) :
    quoted ⟨some name, email⟩ = "\"" ++ name ++ "\" <" ++ email ++ ">" := rfl

theorem toList_quoted_some (name email : String) : (quoted ⟨some name, email⟩).toList =
    '"' :: (name.toList ++ '"' :: ' ' :: '<' :: (email.toList ++ ['>'])) := by
  rw [quoted_some]
  simp [String.toList_append]

section
variable {a : Address} (h : a.Canonical)
include h

/-- The written form is one entry: its separators are within quotes. -/
theorem Canonical.pieces_quoted : pieces false a.quoted.toList = [a.quoted.toList] := by
  obtain ⟨hname, -, -, hemail⟩ := h
  have hsep : ',' ∉ a.email.toList ∧ ';' ∉ a.email.toList :=
    ⟨hemail _ (by decide), hemail _ (by decide)⟩
  have hquotes : '"' ∉ a.email.toList := hemail _ (by decide)
  obtain ⟨_ | name, email⟩ := a
  · have hwhole : pieces false (email.toList ++ []) = [email.toList ++ []] :=
      pieces_append hquotes (fun _ => hsep) rfl
    rwa [List.append_nil] at hwhole
  · have hname : '"' ∉ name.toList := (hname name rfl).2.2
    have hend : pieces false (email.toList ++ ['>']) = [email.toList ++ ['>']] :=
      pieces_append hquotes (fun _ => hsep) rfl
    have hbehind : pieces true ('"' :: ' ' :: '<' :: (email.toList ++ ['>'])) =
        ['"' :: ' ' :: '<' :: (email.toList ++ ['>'])] :=
      pieces_cons (by decide) (pieces_cons (by decide) (pieces_cons (by decide) hend))
    rw [toList_quoted_some]
    exact pieces_cons (by decide) (pieces_append hname nofun hbehind)

theorem Canonical.even_count_quoted : Even (a.quoted.toList.count '"') := by
  obtain ⟨hname, -, -, hemail⟩ := h
  have hquotes : a.email.toList.count '"' = 0 := List.count_eq_zero.mpr (hemail _ (by decide))
  obtain ⟨_ | name, email⟩ := a
  · have hnone : (quoted ⟨none, email⟩).toList.count '"' = 0 := hquotes
    exact hnone ▸ (by decide : Even 0)
  · have hname : name.toList.count '"' = 0 := List.count_eq_zero.mpr (hname name rfl).2.2
    have htwo : (quoted ⟨some name, email⟩).toList.count '"' = 2 := by
      rw [toList_quoted_some]
      simp [List.count_append, hname, hquotes]
    exact htwo ▸ (by decide : Even 2)

theorem Canonical.parse_quoted : parse a.quoted.toList = a := by
  obtain ⟨hname, -, htrim, hemail⟩ := h
  have hopening : '<' ∉ a.email.toList := hemail _ (by decide)
  have htrim : trim a.email.toList = a.email.toList := htrim
  obtain ⟨_ | name, email⟩ := a
  · have hnone : (quoted ⟨none, email⟩).toList = email.toList := rfl
    rw [hnone, parse]
    simp only [htrim, splitLast?_of_notMem hopening, String.ofList_toList]
  · obtain ⟨hne, hblank, hquotes⟩ := hname name rfl
    have hwhole : trim (quoted ⟨some name, email⟩).toList =
        ('"' :: (name.toList ++ ['"', ' '])) ++ '<' :: (email.toList ++ ['>']) := by
      have hends : (quoted ⟨some name, email⟩).toList =
          '"' :: ((name.toList ++ '"' :: ' ' :: '<' :: email.toList) ++ ['>']) := by
        rw [toList_quoted_some]
        simp
      rw [trim, hends, Text.stripEnds_of_ends rfl rfl]
      simp
    have hopen : '<' ∉ email.toList ++ ['>'] := by
      simpa using hopening
    rw [parse, hwhole]
    simp only [splitLast?_append hopen, splitLast?_append List.not_mem_nil, htrim,
      displayName?_quotes hne hblank hquotes, String.ofList_toList]

theorem Canonical.quoted_not_blank : a.quoted.toList.all isBlank = false := by
  rw [Bool.eq_false_iff]
  intro hblank
  have hnil : trim a.quoted.toList = [] := by
    rw [trim, Text.stripEnds_eq, List.dropWhile_eq_nil_iff.mpr (List.all_eq_true.mp hblank)]
    rfl
  have hempty : parse a.quoted.toList = ⟨none, ""⟩ := by
    rw [parse, hnil]
    rfl
  rw [h.parse_quoted] at hempty
  exact h.2.1 (congrArg email hempty)

theorem Canonical.parseList_quoted : parseList a.quoted.toList = [a] := by
  rw [parseList, h.pieces_quoted, List.filter_cons_of_pos (by rw [h.quoted_not_blank]; rfl)]
  exact congrArg ([·]) h.parse_quoted

end

theorem joinList_singleton (a : Address) : joinList [a] = a.quoted := String.intercalate_singleton

theorem joinList_cons_cons (a b : Address) (as : List Address) :
    joinList (a :: b :: as) = a.quoted ++ ", " ++ joinList (b :: as) := String.intercalate_cons_cons

/-- A list of addresses reads back from its written form. -/
theorem parseList_joinList {as : List Address} (h : ∀ a ∈ as, a.Canonical) :
    parseList (joinList as).toList = as := by
  induction as with
  | nil => rfl
  | cons a as ih =>
    have ha : a.Canonical := h a List.mem_cons_self
    have has := ih fun b hb => h b (List.mem_cons_of_mem a hb)
    cases as with
    | nil => rw [joinList_singleton, ha.parseList_quoted]
    | cons b bs =>
      -- The comma stands behind the two quotes of the first entry, or none.
      have hjoin : (joinList (a :: b :: bs)).toList =
          a.quoted.toList ++ ',' :: ' ' :: (joinList (b :: bs)).toList := by
        rw [joinList_cons_cons, String.toList_append, String.toList_append, List.append_assoc]
        rfl
      rw [hjoin, parseList_append_comma ha.even_count_quoted, parseList_cons_blank rfl,
        ha.parseList_quoted, has]
      rfl

/-- Lists of addresses survive being written: a list in canonical form reads back as it was, and a
comma behind an even number of quotes separates two lists, whatever they hold. -/
theorem lists_survive_writing :
    (∀ as : List Address, (∀ a ∈ as, a.Canonical) → parseList (joinList as).toList = as) ∧
    ∀ s t : String, Even (s.toList.count '"') →
      parseList (s ++ "," ++ t).toList = parseList s.toList ++ parseList t.toList := by
  refine ⟨fun as => parseList_joinList, fun s t h => ?_⟩
  have hcut : (s ++ "," ++ t).toList = s.toList ++ ',' :: t.toList := by
    rw [String.toList_append, String.toList_append, List.append_assoc]
    rfl
  rw [hcut, parseList_append_comma h]

/-- Guests whose names hold all that separates addresses, and one without a name. -/
def guests : List Address :=
  [⟨some "Doe, Jane; <office>", "jane@example.com"⟩, ⟨none, "bob@example.com"⟩,
    ⟨some ">, <", "c d@example.com"⟩]

/-- The guests are read back, and so is a text that is cut behind a quoted comma and before a quote
that is never closed. -/
theorem guests_survive_writing :
    (∀ a ∈ guests, a.Canonical) ∧ parseList (joinList guests).toList = guests ∧
      Even ("\"Doe, J\" <j@example.com>; ".toList.count '"') ∧
      parseList ("\"Doe, J\" <j@example.com>; " ++ "," ++ "\"a, b").toList =
        parseList "\"Doe, J\" <j@example.com>; ".toList ++ parseList "\"a, b".toList := by
  have hguests : ∀ a ∈ guests, a.Canonical := by decide
  have heven : Even ("\"Doe, J\" <j@example.com>; ".toList.count '"') := by decide
  exact ⟨hguests, lists_survive_writing.1 guests hguests, heven,
    lists_survive_writing.2 _ _ heven⟩

end MailSync.Address
