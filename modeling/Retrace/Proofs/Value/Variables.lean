import Retrace.Proofs.Text.Lines
import Retrace.Proofs.Text.Trim
import Retrace.Value.Parser

/-!
# Reading blocks of variables

A block of lines says what its lines say one by one. Blanks around the block and
the carriage returns at the ends of lines make no difference.
-/

namespace Retrace.Variables

open Text

variable {c : Char} {s t : List Char}

/-- The variables on the lines of a text, in the order of the lines. -/
def bindings (block : List Char) : List (String × Value) :=
  (splitOn '\n' block).filterMap readLine?

-- ---------------------------------------------------------------------------
-- One line
-- ---------------------------------------------------------------------------

/-- A line of a name, an equals sign and a value says so. -/
theorem readLine?_append {name : List Char} (free : '=' ∉ name) (value : List Char) :
    readLine? (name ++ '=' :: value) = some (String.ofList (trim name), Value.read (trim value)) := by
  rw [readLine?, cutAt_append_of_notMem free, Option.map_some]

theorem readLine?_of_notMem (h : '=' ∉ s) : readLine? s = none := by
  rw [readLine?, cutAt_of_notMem h, Option.map_none]

/-- A line is without an equals sign, or the first one cuts it. -/
theorem line_cases (s : List Char) : '=' ∉ s ∨ ∃ name value, '=' ∉ name ∧ s = name ++ '=' :: value := by
  by_cases h : '=' ∈ s
  · obtain ⟨name, value, rfl, free⟩ := List.eq_append_cons_of_mem h
    exact .inr ⟨name, value, free, rfl⟩
  · exact .inl h

theorem ne_of_blank (h : isBlank c = true) : c ≠ '=' := by
  rintro rfl
  exact absurd h (by decide)

theorem readLine?_cons_of_blank (h : isBlank c = true) (s : List Char) :
    readLine? (c :: s) = readLine? s := by
  rcases line_cases s with free | ⟨name, value, free, rfl⟩
  · rw [readLine?_of_notMem free, readLine?_of_notMem (by simp [free, (ne_of_blank h).symm])]
  · rw [readLine?_append free, ← List.cons_append,
      readLine?_append (by simp [free, (ne_of_blank h).symm]), trim_cons_of_blank h]

theorem readLine?_append_of_blank (h : isBlank c = true) (s : List Char) :
    readLine? (s ++ [c]) = readLine? s := by
  rcases line_cases s with free | ⟨name, value, free, rfl⟩
  · rw [readLine?_of_notMem free, readLine?_of_notMem (by simp [free, (ne_of_blank h).symm])]
  · rw [List.append_assoc, List.cons_append, readLine?_append free, readLine?_append free,
      trim_append_of_blank h]

theorem readLine?_dropReturn (s : List Char) : readLine? (dropReturn s) = readLine? s := by
  unfold dropReturn
  split
  · next h =>
    obtain ⟨t, rfl⟩ := List.getLast?_eq_some_iff.1 h
    rw [List.dropLast_concat, readLine?_append_of_blank (by decide)]
  · rfl

-- ---------------------------------------------------------------------------
-- Blocks
-- ---------------------------------------------------------------------------

/-- Lines say what their halves say. -/
theorem bindings_append (s t : List Char) :
    bindings (s ++ '\n' :: t) = bindings s ++ bindings t := by
  simp [bindings, splitOn_append]

theorem bindings_of_line (h : '\n' ∉ s) : bindings s = (readLine? s).toList := by
  rw [bindings, splitOn_of_notMem h]
  cases hs : readLine? s <;> simp [hs]

@[simp] theorem bindings_nil : bindings [] = [] :=
  bindings_of_line (by simp)

theorem bindings_cons_of_blank (h : isBlank c = true) (s : List Char) :
    bindings (c :: s) = bindings s := by
  by_cases hc : c = '\n'
  · have := bindings_append [] s
    simpa [hc] using this
  · obtain ⟨piece, pieces, hs, hcs⟩ := splitOn_cons_of_ne hc s
    simp only [bindings, hs, hcs, List.filterMap_cons, readLine?_cons_of_blank h]

theorem bindings_append_of_blank (h : isBlank c = true) (s : List Char) :
    bindings (s ++ [c]) = bindings s := by
  by_cases hc : c = '\n'
  · rw [hc, bindings_append, bindings_nil, List.append_nil]
  · by_cases feed : '\n' ∈ s
    · -- The last line starts after the last line feed.
      obtain ⟨line, front, hs, free⟩ := List.eq_append_cons_of_mem (List.mem_reverse.2 feed)
      obtain rfl : s = front.reverse ++ '\n' :: line.reverse := by
        simpa using congrArg List.reverse hs
      have here : '\n' ∉ line.reverse := by simp [free]
      have last : '\n' ∉ line.reverse ++ [c] := by simp [free, Ne.symm hc]
      rw [List.append_assoc, List.cons_append, bindings_append, bindings_append,
        bindings_of_line last, bindings_of_line here, readLine?_append_of_blank h]
    · rw [bindings_of_line feed, bindings_of_line (by simp [feed, Ne.symm hc]),
        readLine?_append_of_blank h]

theorem bindings_trim (s : List Char) : bindings (trim s) = bindings s := by
  obtain ⟨u, v, hs, hu, hv⟩ := exists_trim s
  have front (t : List Char) : bindings (u ++ t) = bindings t := by
    clear hs
    induction u with
    | nil => rfl
    | cons c u ih =>
      obtain ⟨hc, hu⟩ := List.forall_mem_cons.1 hu
      rw [List.cons_append, bindings_cons_of_blank hc, ih hu]
  have back (t : List Char) : bindings (t ++ v) = bindings t := by
    clear hs front
    induction v generalizing t with
    | nil => rw [List.append_nil]
    | cons c v ih =>
      obtain ⟨hc, hv⟩ := List.forall_mem_cons.1 hv
      rw [List.append_cons, ih hv, bindings_append_of_blank hc]
  conv_rhs => rw [hs, List.append_assoc, front, back]

theorem bindings_append_return (s t : List Char) :
    bindings (s ++ '\r' :: '\n' :: t) = bindings (s ++ '\n' :: t) := by
  rw [List.append_cons, bindings_append, bindings_append, bindings_append_of_blank (by decide)]

/-- Carriage returns in front of line feeds make no difference. -/
theorem bindings_of_returned (h : Returned s t) : bindings t = bindings s := by
  suffices general : ∀ front, bindings (front ++ t) = bindings (front ++ s) from general []
  induction h with
  | nil => exact fun front => rfl
  | cons c later ih =>
    intro front
    simpa using ih (front ++ [c])
  | ending later ih =>
    intro front
    rw [bindings_append_return]
    simpa using ih (front ++ ['\n'])

theorem bindings_unifyEndings (s : List Char) : bindings (unifyEndings s) = bindings s :=
  (bindings_of_returned (returned_unifyEndings s)).symm

theorem filterMap_lines (s : List Char) : (lines s).filterMap readLine? = bindings s := by
  obtain ⟨front, last, hs⟩ : ∃ front last, splitOn '\n' s = front ++ [last] :=
    ⟨_, _, (List.dropLast_append_getLast (splitOn_ne_nil '\n' s)).symm⟩
  have ended : (front.map dropReturn).filterMap readLine? = front.filterMap readLine? := by
    rw [List.filterMap_map]
    exact List.filterMap_congr fun line _ => readLine?_dropReturn line
  cases last with
  | nil => simp [lines, bindings, hs, ended, readLine?_of_notMem]
  | cons c last => simp [lines, bindings, hs, ended]

/-- A block is read line by line. -/
theorem read_eq (block : List Char) : read block = .ofList (bindings block) := by
  rw [read, filterMap_lines, bindings_trim, bindings_unifyEndings]

end Retrace.Variables
