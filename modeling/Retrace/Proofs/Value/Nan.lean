import Retrace.Proofs.Value.Reading

/-!
# Texts that are no numbers

What is no number is read from one word, in any mix of cases and after an
optional sign, and from nothing else; no numeral is rounded to it. An array has
it inside if the text of an element does.
-/

namespace Retrace

-- ---------------------------------------------------------------------------
-- Numerals
-- ---------------------------------------------------------------------------

namespace Binary64

theorem ofRatio_ne_nan (negative : Bool) (n d : Nat) : ofRatio negative n d ≠ .nan := by
  unfold ofRatio
  split
  · simp [zero]
  · dsimp only
    split <;> split <;> simp

theorem ofDecimal_ne_nan (negative : Bool) (coefficient : Nat) (exponent : Int) :
    ofDecimal negative coefficient exponent ≠ .nan := by
  unfold ofDecimal
  dsimp only
  split
  · simp [zero]
  · split
    · simp
    · exact ofRatio_ne_nan _ _ _

end Binary64

namespace Numeral

variable {s word : List Char}

theorem unsignedDecimal?_ne_nan (negative : Bool) (s : List Char) :
    unsignedDecimal? negative s ≠ some .nan := by
  intro read
  unfold unsignedDecimal? at read
  dsimp only at read
  -- With a point or without one, a text that has digits denotes a decimal.
  split at read
  all_goals
    rw [Option.ite_none_left_eq_some, Option.map_eq_some_iff] at read
    obtain ⟨-, e, -, number⟩ := read
    exact Binary64.ofDecimal_ne_nan _ _ _ number

/-- The word for what is no number, in any mix of cases. -/
abbrev IsNan (word : List Char) : Prop :=
  word.map Char.toLower = "nan".toList

/-- No number is written as one word. -/
theorem binary64?_eq_nan_iff : binary64? s = some .nan ↔ IsNan (takeSign s).2 := by
  have spelled (t : String) :
      String.ofList ((takeSign s).2.map Char.toLower) = t ↔
        (takeSign s).2.map Char.toLower = t.toList := by
    rw [← String.toList_inj, String.toList_ofList]
  unfold binary64? IsNan
  dsimp only
  simp only [spelled]
  split
  · next infinity =>
    simp only [Option.some.injEq, reduceCtorEq, false_iff]
    rcases infinity with inf | inf <;> rw [inf] <;> decide
  · split
    · next nan => simp [nan]
    · next other =>
      simp only [other, iff_false]
      exact unsignedDecimal?_ne_nan _ _

/-- The word is no whole number. -/
theorem int64?_of_isNan (nan : IsNan (takeSign s).2) : int64? s = none := by
  have letters : digits? (takeSign s).2 = none := by
    rw [digits?, if_neg]
    rintro ⟨nonempty, digits⟩
    obtain ⟨c, rest, word⟩ := List.exists_cons_of_ne_nil nonempty
    rw [word] at nan digits
    have first : c.toLower = 'n' := (List.cons.inj nan).1
    have digit : c.isDigit = true := (List.all_eq_true.1 digits) c (.head _)
    rw [toLower_of_isDigit digit] at first
    rw [first] at digit
    exact absurd digit (by decide)
  rw [int64?]
  dsimp only
  rw [letters]

/-- A text is a sign and what follows it, or has no sign. -/
theorem exists_sign (s : List Char) :
    ∃ sign ∈ [[], ['-'], ['+']], s = sign ++ (takeSign s).2 := by
  obtain ⟨sign, signed, cut⟩ := exists_signs s
  exact ⟨sign, mem_signs_iff.1 ⟨_, signed⟩, cut⟩

/-- A sign in front of the word is a sign. -/
theorem takeSign_of_isNan {sign : List Char} (signed : sign ∈ [[], ['-'], ['+']])
    (nan : IsNan word) : (takeSign (sign ++ word)).2 = word := by
  obtain ⟨negative, signed⟩ := mem_signs_iff.2 signed
  have lettered (mark : Char) (unlike : mark.toLower ≠ 'n') : word.head? ≠ some mark := by
    intro first
    obtain ⟨rest, rfl⟩ := List.head?_eq_some_iff.1 first
    exact unlike (List.cons.inj nan).1
  rw [takeSign_append signed (lettered _ (by decide)) (lettered _ (by decide))]

end Numeral

-- ---------------------------------------------------------------------------
-- Values
-- ---------------------------------------------------------------------------

namespace Value

variable {token : List Char}

/-- The texts that are read as no number, or as an array with such a text inside. -/
inductive NanText : List Char → Prop where
  | word {sign word : List Char} (signed : sign ∈ [[], ['-'], ['+']]) (nan : Numeral.IsNan word) :
    NanText (sign ++ word)
  | array {body element : List Char} (listed : element ∈ Elements.split (Text.trim body))
      (nan : NanText element) : NanText ('{' :: (body ++ ['}']))

/-- A scalar is no number if it is the word for that, after an optional sign. -/
theorem hasNan_readScalar :
    (readScalar token).hasNan = true ↔ Numeral.IsNan (Numeral.takeSign token).2 := by
  constructor
  · intro nan
    unfold readScalar at nan
    split at nan
    · cases nan
    split at nan
    · cases nan
    split at nan
    · cases nan
    split at nan
    · cases nan
    split at nan
    · cases nan
    split at nan
    · next x number =>
      obtain rfl : x = .nan := eq_of_beq nan
      exact Numeral.binary64?_eq_nan_iff.1 number
    · cases nan
  · intro nan
    have other (t : String) (unlike : ¬ Numeral.IsNan (Numeral.takeSign t.toList).2) :
        token ≠ t.toList := by
      rintro rfl
      exact unlike nan
    have unquoted : unquote? token = none := by
      unfold unquote?
      split
      · next q rest =>
        rw [if_neg]
        rintro ⟨rfl | rfl, -⟩ <;> exact absurd (List.cons.inj nan).1 (by decide)
      · rfl
    rw [readScalar, if_neg (other "null" (by decide)), unquoted]
    dsimp only
    rw [if_neg (other "true" (by decide)), if_neg (other "false" (by decide)),
      Numeral.int64?_of_isNan nan, Numeral.binary64?_eq_nan_iff.2 nan]
    rfl

/-- The word is read as a scalar, whatever sign it has. -/
theorem read_of_isNan {sign word : List Char} (signed : sign ∈ [[], ['-'], ['+']])
    (nan : Numeral.IsNan word) : read (sign ++ word) = readScalar (sign ++ word) := by
  obtain ⟨c, rest, letters⟩ := List.exists_cons_of_ne_nil (l := word) <| by
    rintro rfl
    cases nan
  have first : c.toLower = 'n' := by
    rw [letters] at nan
    exact (List.cons.inj nan).1
  have other (d : Char) (unlike : d.toLower ≠ 'n') : c ≠ d := by
    rintro rfl
    exact unlike first
  simp only [List.mem_cons, List.not_mem_nil, or_false] at signed
  rcases signed with rfl | rfl | rfl
  · rw [List.nil_append, letters]
    exact read_of_scalar (other _ (by decide)) (other _ (by decide)) (other _ (by decide)) rest
  · exact read_of_scalar (by decide) (by decide) (by decide) word
  · exact read_of_scalar (by decide) (by decide) (by decide) word

theorem anyNan_iff {items : List Value} : anyNan items = true ↔ ∃ v ∈ items, v.hasNan = true := by
  induction items with
  | nil => simp [anyNan]
  | cons v items ih => simp [anyNan, ih]

/-- What is no number is read from these texts only. -/
theorem hasNan_read_iff : (read token).hasNan = true ↔ NanText token := by
  constructor
  · intro nan
    induction bound : token.length using Nat.strongRecOn generalizing token with
    | ind n ih =>
      rw [read_eq] at nan
      split at nan
      · cases nan
      split at nan
      · cases nan
      split at nan
      · next body inside =>
        obtain ⟨v, among, nan⟩ := anyNan_iff.1 nan
        obtain ⟨element, listed, rfl⟩ := List.mem_map.1 among
        have shorter : element.length < token.length :=
          Nat.lt_of_le_of_lt
            (Nat.le_trans (Elements.length_le_of_mem_split listed) (Text.trim_length_le body))
            (unbrace?_length_lt inside)
        rw [unbrace?_eq_some_iff.1 inside]
        exact .array listed (ih element.length (bound ▸ shorter) nan rfl)
      · have nan := hasNan_readScalar.1 nan
        obtain ⟨sign, signed, cut⟩ := Numeral.exists_sign token
        rw [cut]
        exact .word signed nan
  · intro nan
    induction nan with
    | @word sign word signed nan =>
      have cut : Numeral.IsNan (Numeral.takeSign (sign ++ word)).2 := by
        rwa [Numeral.takeSign_of_isNan signed nan]
      rw [read_of_isNan signed nan]
      exact hasNan_readScalar.2 cut
    | array listed nan ih =>
      rw [read_braced]
      exact anyNan_iff.2 ⟨_, List.mem_map_of_mem listed, ih⟩

end Value

end Retrace
