import Retrace.Proofs.Number.Numeral
import Retrace.Value.Parser

/-!
# Reading one form

The forms of a text are tried in order. A text that begins like none of the first forms is a scalar,
and each way to write a value is read by the form that it has.
-/

namespace Retrace.Value

open Elements

variable {c : Char} {s token body rest : List Char}

theorem unbrace?_eq_some_iff : unbrace? token = some body ↔ token = '{' :: (body ++ ['}']) := by
  constructor
  · intro inside
    unfold unbrace? at inside
    split at inside
    · next rest =>
      split at inside
      · next closed =>
        obtain ⟨front, rfl⟩ := List.getLast?_eq_some_iff.1 closed
        simpa using inside
      · cases inside
    · cases inside
  · rintro rfl
    simp [unbrace?]

/-- Reading a text, form by form. -/
theorem read_eq (token : List Char) :
    read token =
      if token = "<void value>".toList then .null
      else if "instance".toList.isPrefixOf token then .reference (String.ofList token)
      else match unbrace? token with
        | some body => .array ((split (Text.trim body)).map read)
        | none => readScalar token := by
  rw [read]
  congr 2
  split
  · next body inside =>
    have unattached : (split (Text.trim body)).attach.map (fun piece => read piece.1) =
        (split (Text.trim body)).map read := by simp
    simp only [inside]
    exact congrArg Value.array unattached
  · next outside => rw [outside]

theorem read_of_reference (starts : "instance".toList <+: token) :
    read token = .reference (String.ofList token) := by
  have other : token ≠ "<void value>".toList := by
    rintro rfl
    exact absurd starts (by decide)
  rw [read_eq, if_neg other, if_pos (List.isPrefixOf_iff_prefix.2 starts)]

/-- A text with another first character is not one of the two fixed forms. -/
theorem read_cons (void : c ≠ '<') (letter : c ≠ 'i') (rest : List Char) :
    read (c :: rest) =
      match unbrace? (c :: rest) with
      | some body => .array ((split (Text.trim body)).map read)
      | none => readScalar (c :: rest) := by
  have other : c :: rest ≠ "<void value>".toList := by
    intro same
    exact void (List.cons.inj same).1
  have unlike : ¬ "instance".toList.isPrefixOf (c :: rest) = true := by
    rw [List.isPrefixOf_iff_prefix]
    intro starts
    exact letter (List.cons_prefix_cons.1 starts).1.symm
  rw [read_eq, if_neg other, if_neg unlike]

/-- What stands between braces is read as the elements of an array. -/
theorem read_braced (body : List Char) :
    read ('{' :: (body ++ ['}'])) = .array ((split (Text.trim body)).map read) := by
  rw [read_cons (by decide) (by decide), unbrace?_eq_some_iff.2 rfl]

/-- A text that does not begin with a brace is read as a scalar. -/
theorem read_of_scalar (void : c ≠ '<') (letter : c ≠ 'i') (brace : c ≠ '{') (rest : List Char) :
    read (c :: rest) = readScalar (c :: rest) := by
  have none : unbrace? (c :: rest) = none := by
    refine Option.eq_none_iff_forall_not_mem.2 fun body inside => ?_
    exact brace (List.cons.inj (unbrace?_eq_some_iff.1 inside)).1
  rw [read_cons void letter, none]

/-- What stands between double quotes is read as it is, whatever it is. -/
theorem read_quoted (s : List Char) : read ('"' :: (s ++ ['"'])) = .string (String.ofList s) := by
  have null : '"' :: (s ++ ['"']) ≠ "null".toList := by
    intro same
    exact absurd (List.cons.inj same).1 (by decide)
  rw [read_of_scalar (by decide) (by decide) (by decide), readScalar, if_neg null]
  simp [unquote?]

/-- The text of a number is read as a scalar, and not as a word or as a quoted text. -/
theorem read_of_int64? {n : Int64} (starts : token.head? = some c) (digit : c.isDigit ∨ c = '-')
    (number : Numeral.int64? token = some n) : read token = .int n := by
  obtain ⟨rest, rfl⟩ := List.head?_eq_some_iff.1 starts
  have other (d : Char) (unlike : ¬ (d.isDigit ∨ d = '-')) : c ≠ d := by
    rintro rfl
    exact unlike digit
  have word (t : String) {d : Char} {ds : List Char} (letters : t.toList = d :: ds)
      (unlike : ¬ (d.isDigit ∨ d = '-')) : c :: rest ≠ t.toList := by
    intro same
    exact other d unlike (List.cons.inj (same.trans letters)).1
  have unquoted : unquote? (c :: rest) = none := by
    rw [unquote?, if_neg]
    rintro ⟨quote | quote, -⟩
    · exact other '\x27' (by decide) quote
    · exact other '"' (by decide) quote
  rw [read_of_scalar (other _ (by decide)) (other _ (by decide)) (other _ (by decide)), readScalar,
    if_neg (word "null" rfl (by decide)), unquoted]
  dsimp only
  rw [if_neg (word "true" rfl (by decide)), if_neg (word "false" rfl (by decide)), number]

/-- A whole number is read back from its text. -/
theorem read_int (n : Int64) : read (toString n.toInt).toList = .int n := by
  have number := Numeral.int64?_toString n
  rcases Numeral.toList_toString n.toInt with ⟨text, -⟩ | ⟨text, -⟩
  · obtain ⟨c, rest, digits⟩ := List.exists_cons_of_ne_nil
      (Nat.toDigits_ne_nil : Nat.toDigits 10 n.toInt.natAbs ≠ [])
    have digit : c.isDigit = true := Numeral.isDigit_of_mem_toDigits (by rw [digits]; exact .head _)
    exact read_of_int64? (by rw [text, digits]; rfl) (.inl digit) number
  · exact read_of_int64? (by rw [text]; rfl) (.inr rfl) number

end Retrace.Value
