/-!
# Blank characters

The characters with the Unicode property `White_Space`, and the operations on
text that depend on them: cutting blanks off the ends and splitting at blanks.
Text is a list of characters here, since everything that reads debugger output
scans it from the left.
-/

namespace Retrace.Text

/-- The twenty-five characters that separate words. -/
def isBlank (c : Char) : Bool :=
  let n := c.toNat
  (0x09 ≤ n && n ≤ 0x0D) || n == 0x20 || n == 0x85 || n == 0xA0 || n == 0x1680 ||
    (0x2000 ≤ n && n ≤ 0x200A) || n == 0x2028 || n == 0x2029 || n == 0x202F ||
    n == 0x205F || n == 0x3000

/-- Every character that core calls whitespace is blank. -/
theorem isBlank_of_isWhitespace {c : Char} (h : c.isWhitespace) : isBlank c := by
  simp only [Char.isWhitespace, Bool.or_eq_true, decide_eq_true_eq] at h
  rcases h with ((rfl | rfl) | rfl) | rfl <;> decide

-- ---------------------------------------------------------------------------
-- Trimming
-- ---------------------------------------------------------------------------

/-- Without the blanks at the start. -/
def trimStart (s : List Char) : List Char :=
  s.dropWhile isBlank

/-- Without the blanks at the end. -/
def trimEnd (s : List Char) : List Char :=
  (s.reverse.dropWhile isBlank).reverse

/-- Without the blanks at either end. -/
def trim (s : List Char) : List Char :=
  trimEnd (trimStart s)

theorem trimStart_length_le (s : List Char) : (trimStart s).length ≤ s.length :=
  (List.dropWhile_sublist _).length_le

theorem trimEnd_length_le (s : List Char) : (trimEnd s).length ≤ s.length := by
  simpa [trimEnd] using (List.dropWhile_sublist (l := s.reverse) isBlank).length_le

theorem trim_length_le (s : List Char) : (trim s).length ≤ s.length :=
  Nat.le_trans (trimEnd_length_le _) (trimStart_length_le s)

-- ---------------------------------------------------------------------------
-- Words
-- ---------------------------------------------------------------------------

/-- The word at the start of a text, what follows it, and the words found before. -/
private def wordsFrom : List Char → List Char → List (List Char)
  | word, [] => if word.isEmpty then [] else [word.reverse]
  | word, c :: rest =>
    if isBlank c then
      if word.isEmpty then wordsFrom [] rest else word.reverse :: wordsFrom [] rest
    else
      wordsFrom (c :: word) rest

/-- The maximal runs of characters that are not blank, in order. -/
def words (s : List Char) : List (List Char) :=
  wordsFrom [] s

end Retrace.Text
