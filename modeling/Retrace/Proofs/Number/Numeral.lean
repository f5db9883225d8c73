import Retrace.Number.Numeral
import Retrace.Text.Blank

/-!
# Numbers that were written

A number is read back from its decimal digits, and a whole number of 64 bits from its text, the least
one included.
-/

namespace Retrace.Numeral

theorem toNat_of_isDigit {c : Char} (h : c.isDigit = true) : 48 ≤ c.toNat ∧ c.toNat ≤ 57 := by
  simp only [Char.isDigit, Bool.and_eq_true, decide_eq_true_eq] at h
  exact ⟨h.1, h.2⟩

theorem isBlank_of_isDigit {c : Char} (h : c.isDigit = true) : Text.isBlank c = false := by
  have bounds := toNat_of_isDigit h
  simp only [Text.isBlank, Bool.or_eq_false_iff, Bool.and_eq_false_iff, decide_eq_false_iff_not,
    beq_eq_false_iff_ne]
  omega

theorem toLower_of_isDigit {c : Char} (digit : c.isDigit = true) : c.toLower = c := by
  have below := (toNat_of_isDigit digit).2
  have small : ¬ (c.val ≥ 'A'.val ∧ c.val ≤ 'Z'.val) := by
    rintro ⟨above, -⟩
    have least : 65 ≤ c.toNat := UInt32.le_iff_toNat_le.1 above
    omega
  exact dif_neg small

theorem isDigit_of_mem_toDigits {n : Nat} {c : Char} (h : c ∈ Nat.toDigits 10 n) :
    c.isDigit = true :=
  Nat.isDigit_of_mem_toDigits (by decide) (by decide) h

/-- Digits are read as the number that they denote. -/
theorem digits?_of_digits {s : List Char} (nonempty : s ≠ []) (digits : ∀ c ∈ s, c.isDigit = true) :
    digits? s = some (Nat.ofDigitChars 10 s 0) := by
  rw [digits?, if_pos ⟨nonempty, List.all_eq_true.2 digits⟩, value, ← Nat.ofDigitChars_eq_foldl]

/-- A number is read back from its digits. -/
theorem digits?_toDigits (n : Nat) : digits? (Nat.toDigits 10 n) = some n := by
  rw [digits?_of_digits Nat.toDigits_ne_nil fun _ => isDigit_of_mem_toDigits,
    Nat.ofDigitChars_ten_toDigits]

/-- Digits are read as the number that they denote if it is below the bound. -/
theorem natBelow?_of_digits {s : List Char} (nonempty : s ≠ []) (digits : ∀ c ∈ s, c.isDigit = true)
    (bound : Nat) :
    natBelow? bound s =
      if Nat.ofDigitChars 10 s 0 < bound then some (Nat.ofDigitChars 10 s 0) else none := by
  unfold natBelow?
  split
  · exact absurd (digits '+' (.head _)) (by decide)
  · simp only [digits?_of_digits nonempty digits, Option.filter_some, decide_eq_true_eq]

/-- What may stand before a number; `true` is minus. -/
def signs : Bool → List (List Char)
  | true => [['-']]
  | false => [[], ['+']]

theorem mem_signs_iff {sign : List Char} :
    (∃ negative, sign ∈ signs negative) ↔ sign ∈ [[], ['-'], ['+']] := by
  rw [Bool.exists_bool]
  simp only [signs, List.mem_cons, List.not_mem_nil, or_false]
  rw [or_right_comm, or_assoc]

theorem exists_signs (s : List Char) :
    ∃ sign ∈ signs (takeSign s).1, s = sign ++ (takeSign s).2 := by
  unfold takeSign
  split
  · exact ⟨['-'], by simp [signs], rfl⟩
  · exact ⟨['+'], by simp [signs], rfl⟩
  · exact ⟨[], by simp [signs], rfl⟩

/-- A sign is told from what does not begin with one. -/
theorem takeSign_append {negative : Bool} {sign body : List Char} (signed : sign ∈ signs negative)
    (minus : body.head? ≠ some '-') (plus : body.head? ≠ some '+') :
    takeSign (sign ++ body) = (negative, body) := by
  have unsigned : takeSign body = (false, body) := by
    unfold takeSign
    split
    · simp at minus
    · simp at plus
    · rfl
  cases negative with
  | true =>
    obtain rfl := List.mem_singleton.1 signed
    rfl
  | false =>
    simp only [signs, List.mem_cons, List.not_mem_nil, or_false] at signed
    rcases signed with rfl | rfl
    · exact unsigned
    · rfl

theorem head?_ne_of_digits {s : List Char} (digits : ∀ c ∈ s, c.isDigit = true) {c : Char}
    (other : c.isDigit = false) : s.head? ≠ some c := by
  intro first
  rw [digits c (List.mem_of_mem_head? first)] at other
  cases other

/-- Digits have no sign. -/
theorem takeSign_of_isDigit {s : List Char} (digits : ∀ c ∈ s, c.isDigit = true) :
    takeSign s = (false, s) := by
  have bare : [] ∈ signs false := .head _
  exact takeSign_append bare (head?_ne_of_digits digits rfl) (head?_ne_of_digits digits rfl)

/-- The text of a whole number: its digits, after a minus if it is negative. -/
theorem toList_toString (i : Int) :
    (toString i).toList = Nat.toDigits 10 i.natAbs ∧ 0 ≤ i ∨
      (toString i).toList = '-' :: Nat.toDigits 10 i.natAbs ∧ i < 0 := by
  cases i with
  | ofNat n =>
    left
    exact ⟨by simp [toString, Int.repr], Int.natCast_nonneg n⟩
  | negSucc n =>
    right
    exact ⟨by simp [toString, Int.repr], Int.negSucc_lt_zero n⟩

/-- A whole number is read back from its text. -/
theorem int64?_toString (n : Int64) : int64? (toString n.toInt).toList = some n := by
  have least := n.le_toInt
  have most := n.toInt_lt
  have bound : twoTo 63 = 2 ^ 63 := rfl
  rw [int64?]
  rcases toList_toString n.toInt with ⟨text, sign⟩ | ⟨text, sign⟩
  · have same : (n.toInt.natAbs : Int) = n.toInt := Int.natAbs_of_nonneg sign
    have fits : n.toInt.natAbs < twoTo 63 := by omega
    rw [text, takeSign_of_isDigit fun c => isDigit_of_mem_toDigits]
    simp only [digits?_toDigits, Bool.false_eq_true, if_false, fits, if_true, same,
      Int64.ofInt_toInt]
  · have same : -(n.toInt.natAbs : Int) = n.toInt := by omega
    have fits : n.toInt.natAbs ≤ twoTo 63 := by omega
    rw [text, takeSign]
    simp only [digits?_toDigits, fits, if_true, same, Int64.ofInt_toInt]

end Retrace.Numeral
