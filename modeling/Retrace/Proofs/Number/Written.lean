import Mathlib.Data.List.TakeWhile
import Retrace.Number.Numeral
import Retrace.Proofs.Number.Numeral
import Retrace.Proofs.Number.Rounding

/-!
# Decimals that were written

Which texts are decimals, and of which number: a sign, digits with at most one point among them, and
a power of ten. Apart from the words for infinity and for what is no number, these are the texts
that are read as doubles.
-/

namespace Retrace.Numeral

-- ---------------------------------------------------------------------------
-- The grammar
-- ---------------------------------------------------------------------------

/-- A power of ten at the end of a decimal: nothing, or `e` and a whole number. -/
inductive Power : List Char → Int → Prop where
  | none : Power [] 0
  | marked {mark : Char} {negative : Bool} {sign digits : List Char} (e : mark = 'e' ∨ mark = 'E')
      (signed : sign ∈ signs negative) (nonempty : digits ≠ [])
      (digits_only : ∀ c ∈ digits, c.isDigit = true) :
    Power (mark :: (sign ++ digits))
      (if negative then -(Nat.ofDigitChars 10 digits 0 : Int) else Nat.ofDigitChars 10 digits 0)

/-- A text without a sign denotes the decimal `c * 10 ^ k`. -/
inductive Denotes : List Char → Nat → Int → Prop where
  | whole {whole scale : List Char} {e : Int} (nonempty : whole ≠ [])
      (digits_only : ∀ c ∈ whole, c.isDigit = true) (power : Power scale e) :
    Denotes (whole ++ scale) (Nat.ofDigitChars 10 whole 0) e
  | pointed {whole fraction scale : List Char} {e : Int} (nonempty : whole ++ fraction ≠ [])
      (digits_only : ∀ c ∈ whole ++ fraction, c.isDigit = true) (power : Power scale e) :
    Denotes (whole ++ '.' :: (fraction ++ scale)) (Nat.ofDigitChars 10 (whole ++ fraction) 0)
      (e - fraction.length)

/-- A text is a decimal, and this is its number. -/
inductive Writes : List Char → ℚ → Prop where
  | decimal {negative : Bool} {sign body : List Char} {c : Nat} {k : Int}
      (signed : sign ∈ signs negative) (denotes : Denotes body c k) :
    Writes (sign ++ body) ((if negative then -1 else 1) * (c * 10 ^ k))

variable {s sign body digits rest : List Char} {negative : Bool} {c n : Nat} {e k : Int}

theorem Denotes.writes (signed : sign ∈ signs false) (denotes : Denotes body c k) :
    Writes (sign ++ body) (c * 10 ^ k) := by
  have writes := Writes.decimal signed denotes
  rwa [if_neg Bool.false_ne_true, one_mul] at writes

/-- A positive number is written without a minus. -/
theorem Writes.exists_of_pos {q : ℚ} (writes : Writes s q) (positive : 0 < q) :
    ∃ sign ∈ signs false, ∃ body c k, s = sign ++ body ∧ Denotes body c k ∧ q = c * 10 ^ k := by
  cases writes with
  | @decimal negative sign body c k signed denotes =>
    cases negative with
    | true =>
      have magnitude : (0 : ℚ) ≤ c * 10 ^ k := by positivity
      rw [if_pos rfl] at positive
      linarith
    | false => exact ⟨sign, signed, body, c, k, rfl, denotes, one_mul _⟩

-- ---------------------------------------------------------------------------
-- Digits
-- ---------------------------------------------------------------------------

theorem digits?_eq_some_iff :
    digits? s = some n ↔
      s ≠ [] ∧ (∀ c ∈ s, c.isDigit = true) ∧ n = Nat.ofDigitChars 10 s 0 := by
  rw [digits?, Option.ite_none_right_eq_some, List.all_eq_true, value, Option.some.injEq,
    ← Nat.ofDigitChars_eq_foldl, and_assoc, @eq_comm _ n]

/-- Digits end where something else begins. -/
theorem span_digits (digits_only : ∀ c ∈ digits, c.isDigit = true)
    (stop : ∀ c ∈ rest.head?, c.isDigit = false) :
    (digits ++ rest).takeWhile Char.isDigit = digits ∧
      (digits ++ rest).dropWhile Char.isDigit = rest := by
  rw [List.takeWhile_append_of_pos digits_only, List.dropWhile_append_of_pos digits_only]
  cases rest with
  | nil => simp
  | cons c later => simp [stop c rfl]

-- ---------------------------------------------------------------------------
-- Reading
-- ---------------------------------------------------------------------------

theorem exponent?_cons (mark : Char) (rest : List Char) :
    exponent? (mark :: rest) =
      if mark = 'e' ∨ mark = 'E' then
        (digits? (takeSign rest).2).map fun n : Nat => if (takeSign rest).1 then -(n : Int) else n
      else none := by
  rw [exponent?]
  dsimp only
  cases digits? (takeSign rest).2 <;> rfl

/-- The powers of ten that are read are those of the grammar. -/
theorem exponent?_eq_some_iff : exponent? s = some e ↔ Power s e := by
  constructor
  · intro read
    cases s with
    | nil =>
      obtain rfl := Option.some.inj read
      exact .none
    | cons mark rest =>
      rw [exponent?_cons, Option.ite_none_right_eq_some] at read
      obtain ⟨marked, read⟩ := read
      obtain ⟨n, whole, rfl⟩ := Option.map_eq_some_iff.1 read
      obtain ⟨nonempty, digits_only, rfl⟩ := digits?_eq_some_iff.1 whole
      obtain ⟨sign, signed, cut⟩ := exists_signs rest
      have power := Power.marked marked signed nonempty digits_only
      rwa [← cut] at power
  · intro power
    cases power with
    | none => rfl
    | @marked mark negative sign digits marked signed nonempty digits_only =>
      rw [exponent?_cons, if_pos marked, takeSign_append signed (head?_ne_of_digits digits_only rfl)
        (head?_ne_of_digits digits_only rfl), digits?_of_digits nonempty digits_only]
      rfl

/-- A power of ten does not continue digits. -/
theorem Power.head_not_digit (h : Power s e) : ∀ c ∈ s.head?, c.isDigit = false := by
  cases h with
  | none => simp
  | marked mark signed nonempty digits_only =>
    rintro _ ⟨⟩
    rcases mark with rfl | rfl <;> rfl

theorem Power.head_ne_point (h : Power s e) : s.head? ≠ some '.' := by
  cases h with
  | none => simp
  | marked mark signed nonempty digits_only => rcases mark with rfl | rfl <;> simp

/-- A text is digits and what does not continue them. -/
theorem exists_digits (s : List Char) :
    ∃ digits rest, s = digits ++ rest ∧ (∀ c ∈ digits, c.isDigit = true) ∧
      ∀ c ∈ rest.head?, c.isDigit = false := by
  refine ⟨s.takeWhile Char.isDigit, s.dropWhile Char.isDigit, List.takeWhile_append_dropWhile.symm,
    fun c => List.mem_takeWhile_imp, fun c first => ?_⟩
  have stop := List.head?_dropWhile_not Char.isDigit s
  rw [first] at stop
  exact stop

variable {whole fraction : List Char}

theorem unsignedDecimal?_of_whole (negative : Bool) (digits_only : ∀ c ∈ whole, c.isDigit = true)
    (stop : ∀ c ∈ rest.head?, c.isDigit = false) (no_point : rest.head? ≠ some '.') :
    unsignedDecimal? negative (whole ++ rest) =
      if whole = [] then none
      else
        (exponent? rest).map fun e =>
          Binary64.ofDecimal negative (Nat.ofDigitChars 10 whole 0) e := by
  obtain ⟨taken, left⟩ := span_digits digits_only stop
  unfold unsignedDecimal?
  rw [taken, left]
  dsimp only
  split
  · simp at no_point
  · simp only [and_true, List.append_nil, List.length_nil, Nat.cast_zero, sub_zero, value,
      ← Nat.ofDigitChars_eq_foldl]

theorem unsignedDecimal?_of_pointed (negative : Bool)
    (digits_only : ∀ c ∈ whole ++ fraction, c.isDigit = true)
    (stop : ∀ c ∈ rest.head?, c.isDigit = false) :
    unsignedDecimal? negative (whole ++ '.' :: (fraction ++ rest)) =
      if whole ++ fraction = [] then none
      else
        (exponent? rest).map fun e =>
          Binary64.ofDecimal negative (Nat.ofDigitChars 10 (whole ++ fraction) 0)
            (e - fraction.length) := by
  rw [List.forall_mem_append] at digits_only
  have point : ∀ c ∈ ('.' :: (fraction ++ rest)).head?, c.isDigit = false := by
    rintro _ ⟨⟩
    rfl
  obtain ⟨taken, left⟩ := span_digits digits_only.1 point
  obtain ⟨taken', left'⟩ := span_digits digits_only.2 stop
  unfold unsignedDecimal?
  rw [taken, left]
  simp only [taken', left', List.append_eq_nil_iff, value, ← Nat.ofDigitChars_eq_foldl]

/-- The texts that are read as decimals are those of the grammar. -/
theorem unsignedDecimal?_eq_some_iff {x : Binary64} :
    unsignedDecimal? negative s = some x ↔
      ∃ c k, Denotes s c k ∧ x = Binary64.ofDecimal negative c k := by
  constructor
  · intro read
    obtain ⟨whole, rest, rfl, digits_only, stop⟩ := exists_digits s
    by_cases point : rest.head? = some '.'
    · obtain ⟨behind, rfl⟩ := List.head?_eq_some_iff.1 point
      obtain ⟨fraction, rest, rfl, digits_only', stop⟩ := exists_digits behind
      have digits_only := List.forall_mem_append.2 ⟨digits_only, digits_only'⟩
      rw [unsignedDecimal?_of_pointed negative digits_only stop, Option.ite_none_left_eq_some,
        Option.map_eq_some_iff] at read
      obtain ⟨nonempty, e, power, rfl⟩ := read
      exact ⟨_, _, .pointed nonempty digits_only (exponent?_eq_some_iff.1 power), rfl⟩
    · rw [unsignedDecimal?_of_whole negative digits_only stop point, Option.ite_none_left_eq_some,
        Option.map_eq_some_iff] at read
      obtain ⟨nonempty, e, power, rfl⟩ := read
      exact ⟨_, _, .whole nonempty digits_only (exponent?_eq_some_iff.1 power), rfl⟩
  · rintro ⟨c, k, denotes, rfl⟩
    cases denotes with
    | whole nonempty digits_only power =>
      rw [unsignedDecimal?_of_whole negative digits_only power.head_not_digit power.head_ne_point,
        if_neg nonempty, exponent?_eq_some_iff.2 power]
      rfl
    | pointed nonempty digits_only power =>
      rw [unsignedDecimal?_of_pointed negative digits_only power.head_not_digit,
        if_neg nonempty, exponent?_eq_some_iff.2 power]
      rfl

/-- A decimal begins with a digit or a point. -/
theorem Denotes.exists_cons (h : Denotes s c k) :
    ∃ first later, s = first :: later ∧ (first.isDigit = true ∨ first = '.') := by
  cases h with
  | @whole whole scale e nonempty digits_only power =>
    obtain ⟨first, later, rfl⟩ := List.exists_cons_of_ne_nil nonempty
    exact ⟨first, later ++ scale, rfl, .inl (digits_only first (.head _))⟩
  | @pointed whole fraction scale e nonempty digits_only power =>
    cases whole with
    | nil => exact ⟨'.', fraction ++ scale, rfl, .inr rfl⟩
    | cons first later =>
      exact ⟨first, later ++ '.' :: (fraction ++ scale), rfl,
        .inl (digits_only first (by simp))⟩

/-- A decimal is not one of the words for other doubles: it does not begin with a letter. -/
theorem Denotes.ne_word (h : Denotes s c k) {word : String} {letter : Char}
    (begins : word.toList.head? = some letter) (no_digit : letter.isDigit = false)
    (no_point : letter ≠ '.') : String.ofList (s.map Char.toLower) ≠ word := by
  obtain ⟨first, later, rfl, start⟩ := h.exists_cons
  rintro rfl
  have same : first.toLower = first := by
    rcases start with digit | rfl
    · exact toLower_of_isDigit digit
    · rfl
  rw [String.toList_ofList, List.map_cons, List.head?_cons, same, Option.some.injEq] at begins
  rw [begins] at start
  simp [no_digit, no_point] at start

/-- A decimal with a sign is read as the double nearest to it. -/
theorem binary64?_of_denotes (signed : sign ∈ signs negative) (denotes : Denotes s c k) :
    binary64? (sign ++ s) = some (Binary64.ofDecimal negative c k) := by
  obtain ⟨first, later, cut, start⟩ := denotes.exists_cons
  have unsigned (mark : Char) (other : mark.isDigit = false) (no_point : mark ≠ '.') :
      s.head? ≠ some mark := by
    rw [cut]
    rintro ⟨⟩
    simp [other, no_point] at start
  rw [binary64?, takeSign_append signed (unsigned _ rfl (by decide)) (unsigned _ rfl (by decide))]
  have infinite : ¬ (String.ofList (s.map Char.toLower) = "inf" ∨
      String.ofList (s.map Char.toLower) = "infinity") := by
    rintro (word | word)
    · exact denotes.ne_word rfl rfl (by decide) word
    · exact denotes.ne_word rfl rfl (by decide) word
  have nan : String.ofList (s.map Char.toLower) ≠ "nan" := denotes.ne_word rfl rfl (by decide)
  dsimp only
  rw [if_neg infinite, if_neg nan]
  exact unsignedDecimal?_eq_some_iff.2 ⟨c, k, denotes, rfl⟩

/-- The finite doubles are read from decimals only. -/
theorem exists_denotes {m : Nat} (read : binary64? s = some (.finite negative m e)) :
    ∃ sign ∈ signs negative, ∃ body c k, s = sign ++ body ∧ Denotes body c k ∧
      Binary64.ofDecimal negative c k = .finite negative m e := by
  obtain ⟨sign, signed, cut⟩ := exists_signs s
  unfold binary64? at read
  dsimp only at read
  split at read
  · cases read
  · split at read
    · cases read
    · obtain ⟨c, k, denotes, number⟩ := unsignedDecimal?_eq_some_iff.1 read
      obtain rfl := Binary64.sign_ofDecimal number.symm
      exact ⟨sign, signed, _, c, k, cut, denotes, number.symm⟩

end Retrace.Numeral
