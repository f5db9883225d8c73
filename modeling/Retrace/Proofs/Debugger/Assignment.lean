import Retrace.Proofs.Debugger.Printed
import Retrace.Proofs.Debugger.Prompt
import Retrace.Proofs.Value.Variables

/-!
# Lines of variables

A line gives a value to a name. Blocks of such lines are read line by line, no
line is taken for a prompt, and the header of the other variables can be in a
value only.
-/

namespace Retrace.Printed

open Message Retrace.Expr

/-- A line that gives a value to a name. Blanks around the value do not belong to it. -/
structure Assignment where
  name : String
  value : String
  name_ne : name ≠ "" := by decide
  name_word : ∀ c ∈ name.toList, inThread c = true := by decide
  value_line : '\n' ∉ value.toList := by decide

namespace Assignment

/-- The line without its ending. -/
def line (a : Assignment) : List Char :=
  a.name.toList ++ " = ".toList ++ a.value.toList

/-- What the value is read as. -/
def read (a : Assignment) : Value :=
  Value.read (Text.trim a.value.toList)

/-- The variable that the line stands for. -/
def entry (a : Assignment) : String × Value :=
  (a.name, a.read)

variable {a : Assignment}

theorem notMem_name {c : Char} (hc : inThread c = false) : c ∉ a.name.toList := fun h => by
  simp [a.name_word c h] at hc

theorem line_eq (a : Assignment) :
    a.line = (a.name.toList ++ [' ']) ++ '=' :: ' ' :: a.value.toList := by
  simp [line]

theorem no_feed_line (a : Assignment) : '\n' ∉ a.line := by
  have name : '\n' ∉ a.name.toList := notMem_name (by decide)
  simp [line_eq, name, a.value_line]

/-- The line of a variable says what it stands for. -/
theorem readLine?_line (a : Assignment) : Variables.readLine? a.line = some a.entry := by
  have name : '=' ∉ a.name.toList := notMem_name (by decide)
  have word : ∀ c ∈ a.name.toList, Text.isBlank c = false := fun c hc => by
    have := a.name_word c hc
    simp only [inThread, Bool.and_eq_true, Bool.not_eq_true'] at this
    exact this.1
  rw [line_eq, Variables.readLine?_append (by simp [name]), Text.trim_append_of_blank (by decide),
    Text.trim_eq_self word, String.ofList_toList, Text.trim_cons_of_blank (by decide)]
  rfl

theorem unprompted_line (a : Assignment) : Unprompted (a.line ++ ['\r']) :=
  ⟨a.name.toList, ' ', '=' :: ' ' :: a.value.toList ++ ['\r'], by simp [line_eq], a.name_word,
    by decide, by decide⟩

end Assignment

/-- The line of a variable as the debugger prints it. -/
def Binding.assignment (b : Binding) : Assignment where
  name := b.name
  value := b.value
  name_ne := b.name_ne
  name_word := b.name_word
  value_line := b.value_line

@[simp] theorem Binding.line_assignment (b : Binding) : b.assignment.line = b.line := rfl

@[simp] theorem Binding.entry_assignment (b : Binding) : b.assignment.entry = b.entry := by
  simp [Assignment.entry, Assignment.read, assignment, b.value_trimmed, entry, Value.parse]

-- ---------------------------------------------------------------------------
-- Blocks
-- ---------------------------------------------------------------------------

/-- The lines of variables after the end of another line. -/
def assignedLines (assignments : List Assignment) : List (List Char) :=
  ['\r'] :: assignments.map (·.line ++ ['\r'])

theorem assignedLines_plain (assignments : List Assignment) :
    ∀ l ∈ assignedLines assignments, '\n' ∉ l ∧ Unprompted l := by
  intro l hl
  rcases List.mem_cons.1 hl with rfl | hl
  · exact ⟨by decide, unprompted_return⟩
  · obtain ⟨a, -, rfl⟩ := List.mem_map.1 hl
    exact ⟨by simp [a.no_feed_line], a.unprompted_line⟩

/-- A block of variables is read as what its lines stand for. -/
theorem parse_assignedLines (assignments : List Assignment) :
    Variables.parse (.ofList (feedLines (assignedLines assignments))) =
      .ofList (assignments.map Assignment.entry) := by
  have lines : Variables.bindings (feedLines (assignments.map (·.line ++ ['\r']))) =
      assignments.map Assignment.entry := by
    induction assignments with
    | nil => simp [feedLines]
    | cons a assignments ih =>
      rw [List.map_cons, feedLines_cons, Variables.bindings_append, ih,
        Variables.bindings_append_of_blank (by decide), Variables.bindings_of_line a.no_feed_line,
        a.readLine?_line]
      rfl
  have front : feedLines (assignedLines assignments) =
      '\r' :: '\n' :: feedLines (assignments.map (·.line ++ ['\r'])) := by
    rw [assignedLines, feedLines_cons]
    rfl
  rw [Variables.parse, String.toList_ofList, Variables.read_eq, front,
    Variables.bindings_cons_of_blank (by decide), Variables.bindings_cons_of_blank (by decide),
    lines]

-- ---------------------------------------------------------------------------
-- The header of the other variables
-- ---------------------------------------------------------------------------

/-- The header between the arguments and the other variables. -/
def localsHeader : List Char :=
  "Local variables:".toList

theorem infix_feedLines {phrase : List Char} (free : '\n' ∉ phrase) (nonempty : phrase ≠ [])
    {lines : List (List Char)} (h : phrase <:+: feedLines lines) : ∃ l ∈ lines, phrase <:+: l := by
  induction lines with
  | nil => exact absurd (List.infix_nil.1 h) nonempty
  | cons line lines ih =>
    rw [feedLines_cons] at h
    rcases Text.infix_append_cons free h with h | h
    · exact ⟨line, .head _, h⟩
    · obtain ⟨l, hl, within⟩ := ih h
      exact ⟨l, .tail _ hl, within⟩

/-- On the line of a variable the header can be in the value only. -/
theorem Assignment.infix_value {a : Assignment} (h : localsHeader <:+: a.line ++ ['\r']) :
    localsHeader <:+: a.value.toList := by
  have name : ' ' ∉ a.name.toList := notMem_name (by decide)
  rcases Text.infix_append_cons (by decide) h with h | h
  · rw [line_eq] at h
    rcases Text.infix_append_cons (by decide) h with h | h
    · -- The header ends with no blank, and has one.
      rcases List.infix_concat_iff.1 h with h | h
      · have last : localsHeader.getLast? = some ':' := by decide
        obtain ⟨u, hu⟩ := h
        have := congrArg List.getLast? hu
        simp [List.getLast?_append, last] at this
      · exact absurd (h.subset (by decide)) name
    · have start : localsHeader.head? = some 'L' := by decide
      rcases List.infix_cons_iff.1 h with ⟨t, ht⟩ | h
      · have := congrArg List.head? ht
        simp [List.head?_append, start] at this
      · exact h
  · exact absurd h (by decide)

/-- A phrase of one line that is not in some lines does not start in them, whatever follows. -/
theorem not_prefix_of_feedLines {phrase : List Char} (free : '\n' ∉ phrase)
    {lines : List (List Char)} (absent : ¬ phrase <:+: feedLines lines) {front back : List Char}
    (cut : feedLines lines = front ++ back) (nonempty : back ≠ []) (rest : List Char) :
    ¬ phrase <+: back ++ rest := by
  intro start
  rcases List.prefix_or_prefix_of_prefix start (List.prefix_append ..) with within | longer
  · exact absent (cut ▸ within.isInfix.trans (List.suffix_append front back).isInfix)
  · -- The phrase would have to reach over the end of the last line.
    have feed : back.getLast? = some '\n' := by
      rw [← List.getLast?_append_of_ne_nil front nonempty, ← cut]
      rcases List.eq_nil_or_concat' lines with rfl | ⟨before, line, rfl⟩
      · simp [feedLines, nonempty] at cut
      · simp [feedLines]
    exact free (longer.subset (List.mem_of_getLast? feed))

/-- The header between arguments and other variables is found. -/
theorem take?_localsHeader {arguments : List Assignment}
    (divided : ∀ a ∈ arguments, ¬ localsHeader <:+: a.value.toList) {b : Buffer} {rest : List Char}
    (hb : b.pending = feedLines (assignedLines arguments) ++ (localsHeader ++ rest)) :
    b.take? localVariablesHeader =
      some (⟨.ofList (feedLines (assignedLines arguments)), .ofList localsHeader⟩,
        { b with pending := rest }) := by
  have free : '\n' ∉ localsHeader := by decide
  have absent : ¬ localsHeader <:+: feedLines (assignedLines arguments) := by
    intro h
    obtain ⟨l, hl, within⟩ := infix_feedLines free (by decide) h
    rcases List.mem_cons.1 hl with rfl | hl
    · exact absurd within (by decide)
    · obtain ⟨a, ha, rfl⟩ := List.mem_map.1 hl
      exact divided a ha (a.infix_value within)
  have picks : localVariablesHeader.expr.Picks b.pending (feedLines (assignedLines arguments))
      ⟨localsHeader, rest, []⟩ := by
    refine ⟨hb.symm, first?_lit "Local variables:" _ _, fun a c t cut => ?_⟩
    exact if_neg (not_prefix_of_feedLines free absent cut (by simp) _)
  exact Buffer.take?_of_picks picks

end Retrace.Printed
