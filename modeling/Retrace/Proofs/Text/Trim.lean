import Retrace.Text.Blank
import Mathlib.Data.List.Basic
import Mathlib.Data.List.TakeWhile

/-!
# Trimming

Blanks at the ends of a text do not change what is left after trimming.
-/

namespace Retrace.Text

variable {c : Char} {s : List Char}

@[simp] theorem trim_nil : trim [] = [] :=
  rfl

theorem trim_cons_of_blank (h : isBlank c = true) (s : List Char) : trim (c :: s) = trim s := by
  simp [trim, trimStart, h]

theorem trimEnd_append_of_blank (h : isBlank c = true) (s : List Char) :
    trimEnd (s ++ [c]) = trimEnd s := by
  simp [trimEnd, h]

theorem trim_append_of_blank (h : isBlank c = true) (s : List Char) : trim (s ++ [c]) = trim s := by
  induction s with
  | nil => rw [List.nil_append, trim_cons_of_blank h]
  | cons d s ih =>
    by_cases hd : isBlank d = true
    · rw [List.cons_append, trim_cons_of_blank hd, trim_cons_of_blank hd, ih]
    · have start (t : List Char) : trim (d :: t) = trimEnd (d :: t) := by simp [trim, trimStart, hd]
      rw [List.cons_append, start, start, ← List.cons_append, trimEnd_append_of_blank h]

/-- Blanks at the end make no difference. -/
theorem trim_append_blanks {v : List Char} (h : ∀ c ∈ v, isBlank c = true) (s : List Char) :
    trim (s ++ v) = trim s := by
  induction v generalizing s with
  | nil => rw [List.append_nil]
  | cons c v ih =>
    obtain ⟨blank, others⟩ := List.forall_mem_cons.1 h
    rw [List.append_cons, ih others, trim_append_of_blank blank]

/-- Blanks at the start make no difference. -/
theorem trim_blanks_append {u : List Char} (h : ∀ c ∈ u, isBlank c = true) (s : List Char) :
    trim (u ++ s) = trim s := by
  induction u with
  | nil => rw [List.nil_append]
  | cons c u ih =>
    obtain ⟨blank, others⟩ := List.forall_mem_cons.1 h
    rw [List.cons_append, trim_cons_of_blank blank, ih others]

/-- Up to a character that is not blank nothing is cut off the end. -/
theorem trimEnd_append_cons (h : isBlank c = false) (u v : List Char) :
    trimEnd (u ++ c :: v) = u ++ c :: trimEnd v := by
  have reversed : (u ++ c :: v).reverse = v.reverse ++ c :: u.reverse := by simp
  rw [trimEnd, trimEnd, reversed, List.dropWhile_append]
  cases cut : v.reverse.dropWhile isBlank with
  | nil => simp [h]
  | cons d t => simp

/-- What is cut off the end are blanks. -/
theorem exists_trimEnd (s : List Char) : ∃ v, s = trimEnd s ++ v ∧ ∀ c ∈ v, isBlank c = true := by
  have ending := List.takeWhile_append_dropWhile (p := isBlank) (l := s.reverse)
  refine ⟨(s.reverse.takeWhile isBlank).reverse, ?_, fun c hc => ?_⟩
  · rw [trimEnd, ← List.reverse_append, ending, List.reverse_reverse]
  · exact List.mem_takeWhile_imp (List.mem_reverse.1 hc)

theorem trim_trimEnd (s : List Char) : trim (trimEnd s) = trim s := by
  obtain ⟨v, cut, blanks⟩ := exists_trimEnd s
  rw [← trim_append_blanks blanks (trimEnd s), ← cut]

/-- A text that does not start with a blank is trimmed at its end only. -/
theorem trim_of_start (h : ∀ c ∈ s.head?, isBlank c = false) : trim s = trimEnd s := by
  cases s with
  | nil => rfl
  | cons c s => simp [trim, trimStart, h c rfl]

/-- Trimming leaves a text as it is if there is no blank at its ends. -/
theorem trim_of_ends (first : ∀ c ∈ s.head?, isBlank c = false)
    (last : ∀ c ∈ s.getLast?, isBlank c = false) : trim s = s := by
  have stays (t : List Char) (h : ∀ c ∈ t.head?, isBlank c = false) : t.dropWhile isBlank = t := by
    cases t with
    | nil => rfl
    | cons c t => simp [h c rfl]
  have ending : ∀ c ∈ s.reverse.head?, isBlank c = false := by simpa using last
  rw [trim, trimStart, stays s first, trimEnd, stays _ ending, List.reverse_reverse]

/-- Trimming leaves a text between two other characters as it is. -/
theorem trim_enclosed {d : Char} (first : isBlank c = false) (last : isBlank d = false)
    (s : List Char) : trim (c :: (s ++ [d])) = c :: (s ++ [d]) := by
  apply trim_of_ends
  · simpa using first
  · simpa [List.getLast?_cons] using last

/-- Trimming leaves a text without blanks as it is. -/
theorem trim_eq_self (h : ∀ c ∈ s, isBlank c = false) : trim s = s := by
  apply trim_of_ends
  · intro c hc
    exact h c (List.mem_of_mem_head? hc)
  · intro c hc
    exact h c (List.mem_of_mem_getLast? hc)

/-- What is left after trimming has no blank at its ends. -/
theorem ends_of_trim (h : trim s = s) :
    (∀ c ∈ s.head?, isBlank c = false) ∧ ∀ c ∈ s.getLast?, isBlank c = false := by
  -- A text with a blank at an end would be shorter after trimming.
  have shorter (t : List Char) : (trim t).length < t.length + 1 :=
    Nat.lt_succ_of_le (trim_length_le t)
  constructor
  · intro c hc
    obtain ⟨t, rfl⟩ := List.head?_eq_some_iff.1 hc
    cases blank : isBlank c with
    | false => rfl
    | true =>
      have same := congrArg List.length ((trim_cons_of_blank blank t).symm.trans h)
      exact absurd (shorter t) (by simp [same])
  · intro c hc
    obtain ⟨t, rfl⟩ := List.getLast?_eq_some_iff.1 hc
    cases blank : isBlank c with
    | false => rfl
    | true =>
      have same := congrArg List.length ((trim_append_of_blank blank t).symm.trans h)
      exact absurd (shorter t) (by simp [same])

/-- A text with the blanks around what is left after trimming. -/
theorem exists_trim (s : List Char) :
    ∃ u v, s = u ++ trim s ++ v ∧ (∀ c ∈ u, isBlank c = true) ∧ ∀ c ∈ v, isBlank c = true := by
  have start := List.takeWhile_append_dropWhile (p := isBlank) (l := s)
  obtain ⟨v, cut, blanks⟩ := exists_trimEnd (trimStart s)
  refine ⟨s.takeWhile isBlank, v, ?_, fun c hc => List.mem_takeWhile_imp hc, blanks⟩
  rw [List.append_assoc, trim, ← cut]
  exact start.symm

theorem trim_trim (s : List Char) : trim (trim s) = trim s := by
  obtain ⟨u, v, cut, first, last⟩ := exists_trim s
  calc trim (trim s) = trim (u ++ trim s ++ v) := by
        rw [trim_append_blanks last, trim_blanks_append first]
    _ = trim s := by rw [← cut]

end Retrace.Text
