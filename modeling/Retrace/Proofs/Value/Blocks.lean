import Retrace.Proofs.NameMap
import Retrace.Proofs.Value.Variables

/-!
# Blocks of variables one below the other

A block overrides the blocks above it name by name, wherever a text is cut into
lines. So a name has the value on its last line, a line that gives nothing can
stand anywhere, and the lines can end either way.
-/

namespace Retrace.Variables

open Text

variable {s t line : List Char} {name : String} {v : Value}

-- ---------------------------------------------------------------------------
-- The last line for a name
-- ---------------------------------------------------------------------------

/-- A line gives a name a value: its first equals sign stands between the two. Blanks around
either do not count. -/
def Gives (line : List Char) (name : String) (v : Value) : Prop :=
  ∃ left right, '=' ∉ left ∧ line = left ++ '=' :: right ∧
    name = String.ofList (trim left) ∧ v = Value.read (trim right)

/-- A line gives a name a value, and no later line gives the name one. -/
def GivenLast (lines : List (List Char)) (name : String) (v : Value) : Prop :=
  ∃ before line after, lines = before ++ line :: after ∧ Gives line name v ∧
    ∀ later ∈ after, ∀ w, ¬ Gives later name w

theorem readLine?_eq_some_iff : readLine? line = some (name, v) ↔ Gives line name v := by
  constructor
  · intro h
    rcases line_cases line with free | ⟨left, right, free, rfl⟩
    · simp [readLine?_of_notMem free] at h
    · rw [readLine?_append free] at h
      obtain ⟨rfl, rfl⟩ := Prod.mk.inj (Option.some.inj h)
      exact ⟨left, right, free, rfl, rfl, rfl⟩
  · rintro ⟨left, right, free, rfl, rfl, rfl⟩
    exact readLine?_append free right

theorem notMem_names_iff {lines : List (List Char)} :
    name ∉ (lines.filterMap readLine?).map (·.1) ↔ ∀ line ∈ lines, ∀ w, ¬ Gives line name w := by
  simp only [← readLine?_eq_some_iff, List.mem_map, List.mem_filterMap, Prod.exists]
  grind

/-- The entries on lines have a name's value in the place of its last line. -/
theorem givenLast_iff {lines : List (List Char)} :
    GivenLast lines name v ↔ (NameMap.ofList (lines.filterMap readLine?)).get? name = some v := by
  rw [NameMap.get?_ofList_eq_some_iff]
  constructor
  · rintro ⟨before, line, after, rfl, given, last⟩
    refine ⟨before.filterMap readLine?, after.filterMap readLine?, ?_, notMem_names_iff.2 last⟩
    rw [List.filterMap_append, List.filterMap_cons_some (readLine?_eq_some_iff.2 given)]
  · rintro ⟨before, after, cut, last⟩
    obtain ⟨above, below, rfl, -, here⟩ := List.filterMap_eq_append_iff.1 cut
    obtain ⟨skipped, line, after, rfl, -, given, rfl⟩ := List.filterMap_eq_cons_iff.1 here
    exact ⟨above ++ skipped, line, after, by simp, readLine?_eq_some_iff.1 given,
      notMem_names_iff.1 last⟩

-- ---------------------------------------------------------------------------
-- Blocks
-- ---------------------------------------------------------------------------

/-- A block below another one overrides it name by name. -/
theorem read_append (s t : List Char) : read (s ++ '\n' :: t) = (read s).union (read t) := by
  rw [read_eq, read_eq, read_eq, bindings_append, NameMap.ofList_append]

theorem get?_read (s : List Char) :
    (read s).get? name = some v ↔ GivenLast (splitOn '\n' s) name v := by
  rw [givenLast_iff, read_eq, bindings]

theorem bindings_of_notMem (h : '=' ∉ s) : bindings s = [] := by
  rw [bindings, List.filterMap_eq_nil_iff]
  exact fun line listed => readLine?_of_notMem fun sign => h (mem_of_mem_splitOn listed sign)

/-- Blocks joined line by line say what each of them says. -/
theorem bindings_intercalate (blocks : List (List Char)) :
    bindings (['\n'].intercalate blocks) = blocks.flatMap bindings := by
  induction blocks with
  | nil => simp
  | cons block blocks ih =>
    cases blocks with
    | nil => simp
    | cons next blocks =>
      rw [List.intercalate_cons_cons, List.append_assoc, List.singleton_append, bindings_append, ih,
        ← List.flatMap_cons]

theorem parse_eq (block : String) : parse block = .ofList (bindings block.toList) :=
  read_eq block.toList

/-- A line without an equals sign changes nothing wherever it stands. -/
theorem parse_intercalate_of_notMem {line : String} (h : '=' ∉ line.toList)
    (before after : List String) :
    parse ("\n".intercalate (before ++ line :: after)) =
      parse ("\n".intercalate (before ++ after)) := by
  have feed : "\n".toList = ['\n'] := rfl
  simp [parse_eq, feed, bindings_intercalate, bindings_of_notMem h]

/-- Blocks compose: the lower one overrides the upper one name by name, so of the lines for a
name the last one counts, a line without an equals sign counts nowhere, and neither do carriage
returns in front of line feeds. -/
theorem parse_blocks :
    (∀ a b : String, parse (a ++ "\n" ++ b) = (parse a).union (parse b) ∧
      ∀ name, (parse (a ++ "\n" ++ b)).get? name =
        ((parse b).get? name).or ((parse a).get? name)) ∧
    (∀ (block name : String) (v : Value), (parse block).get? name = some v ↔
      GivenLast (splitOn '\n' block.toList) name v) ∧
    (∀ (before after : List String) (line : String), '=' ∉ line.toList →
      parse ("\n".intercalate (before ++ line :: after)) =
        parse ("\n".intercalate (before ++ after))) ∧
    (∀ block returned : String, Returned block.toList returned.toList →
      parse returned = parse block) := by
  have below (a b : String) : parse (a ++ "\n" ++ b) = (parse a).union (parse b) := by
    simpa [parse] using read_append a.toList b.toList
  refine ⟨fun a b => ⟨below a b, fun name => ?_⟩, fun block name v => get?_read block.toList,
    fun before after line free => parse_intercalate_of_notMem free before after,
    fun block returned h => ?_⟩
  · rw [below, NameMap.get?_union]
  · rw [parse_eq, parse_eq, bindings_of_returned h]

/-- A text between two lines for one name, and a line that ends with a carriage return. -/
theorem parse_around_text :
    '=' ∉ "Local variables:".toList ∧
      parse "i = 1\nLocal variables:\ni = 2" = parse "i = 1\ni = 2" ∧
    Returned "i = 1\ni = 2".toList "i = 1\r\ni = 2".toList ∧
      parse "i = 1\r\ni = 2" = parse "i = 1\ni = 2" := by
  have ended : Returned "i = 1\ni = 2".toList "i = 1\r\ni = 2".toList :=
    .cons 'i' <| .cons ' ' <| .cons '=' <| .cons ' ' <| .cons '1' <| .ending <|
      .cons 'i' <| .cons ' ' <| .cons '=' <| .cons ' ' <| .cons '2' .nil
  exact ⟨by decide, parse_blocks.2.2.1 ["i = 1"] ["i = 2"] "Local variables:" (by decide), ended,
    parse_blocks.2.2.2 "i = 1\ni = 2" "i = 1\r\ni = 2" ended⟩

end Retrace.Variables
