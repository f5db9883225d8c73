import Retrace.Proofs.Value.Splitting
import Retrace.Proofs.Value.Reading
import Retrace.Value.Printer

/-!
# Writing and reading back

A value that was written is read back as it was, if what it contains can be told apart in its text.
On its own any string can, and any reference that begins like one. In an array the text is scanned
for quotes, braces and commas, so there a string must not close its quotes, and a reference must be
free of all of them.
-/

namespace Retrace.Value

open Elements

/-- What can be told apart among the elements of an array. -/
inductive FaithfulItem : Value → Prop where
  | null : FaithfulItem .null
  | bool (b : Bool) : FaithfulItem (.bool b)
  | int (n : Int64) : FaithfulItem (.int n)
  | string {s : String} (free : '"' ∉ s.toList) : FaithfulItem (.string s)
  | array {items : List Value} (each : ∀ item ∈ items, FaithfulItem item) :
      FaithfulItem (.array items)
  | reference {s : String} (starts : "instance".toList <+: s.toList)
      (plain : ∀ c ∈ s.toList, isDelimiter c = false)
      (closed : ∀ c ∈ s.toList.getLast?, Text.isBlank c = false) : FaithfulItem (.reference s)

/-- What can be told apart on its own. -/
inductive Faithful : Value → Prop where
  | null : Faithful .null
  | bool (b : Bool) : Faithful (.bool b)
  | int (n : Int64) : Faithful (.int n)
  | string (s : String) : Faithful (.string s)
  | array {items : List Value} (each : ∀ item ∈ items, FaithfulItem item) : Faithful (.array items)
  | reference {s : String} (starts : "instance".toList <+: s.toList) : Faithful (.reference s)

variable {v : Value} {items : List Value}

-- ---------------------------------------------------------------------------
-- The text of an element
-- ---------------------------------------------------------------------------

theorem toList_textItems (items : List Value) :
    (textItems items).toList = joined (items.map fun item => item.text.toList) := by
  induction items with
  | nil => rfl
  | cons item later ih =>
    cases later with
    | nil =>
      rw [textItems]
      simp
    | cons next later =>
      rw [textItems, String.toList_append, String.toList_append, ih]
      simp

theorem toList_text_array (items : List Value) :
    (text (.array items)).toList =
      '{' :: (joined (items.map fun item => item.text.toList) ++ ['}']) := by
  rw [text, String.toList_append, String.toList_append, toList_textItems]
  rfl

theorem toList_text_string (s : String) : (text (.string s)).toList = '"' :: (s.toList ++ ['"']) := by
  rw [text, String.toList_append, String.toList_append]
  rfl

/-- The text of a whole number is a sign and digits. -/
theorem mem_text_int {n : Int64} {c : Char} (h : c ∈ (text (.int n)).toList) :
    c.isDigit = true ∨ c = '-' := by
  rw [text] at h
  rcases Numeral.toList_toString n.toInt with ⟨digits, -⟩ | ⟨digits, -⟩
  · rw [digits] at h
    exact .inl (Numeral.isDigit_of_mem_toDigits h)
  · rw [digits] at h
    rcases List.mem_cons.1 h with sign | digit
    · exact .inr sign
    · exact .inl (Numeral.isDigit_of_mem_toDigits digit)

theorem text_int_ne_nil (n : Int64) : (text (.int n)).toList ≠ [] := by
  rw [text]
  rcases Numeral.toList_toString n.toInt with ⟨digits, -⟩ | ⟨digits, -⟩
  · rw [digits]
    exact Nat.toDigits_ne_nil
  · rw [digits]
    exact List.cons_ne_nil _ _

theorem isDelimiter_of_number {c : Char} (number : c.isDigit = true ∨ c = '-') :
    isDelimiter c = false := by
  rw [isDelimiter, decide_eq_false_iff_not]
  intro delimiter
  have ends : ∀ c ∈ [',', '\x27', '"', '{', '}'], ¬ (c.isDigit = true ∨ c = '-') := by decide
  exact ends c delimiter number

/-- The scan of an element comes back to where it began. -/
theorem FaithfulItem.balanced (h : FaithfulItem v) : Balanced v.text.toList := by
  induction h with
  | null => exact balanced_of_plain (by decide)
  | bool b => cases b <;> exact balanced_of_plain (by decide)
  | int n => exact balanced_of_plain fun c hc => isDelimiter_of_number (mem_text_int hc)
  | string free =>
    rw [toList_text_string]
    exact balanced_quoted free
  | array each ih =>
    rw [toList_text_array]
    apply balanced_braced
    intro e he
    obtain ⟨item, member, rfl⟩ := List.mem_map.1 he
    exact ih item member
  | reference starts plain closed => exact balanced_of_plain plain

theorem isBlank_of_number {c : Char} (number : c.isDigit = true ∨ c = '-') :
    Text.isBlank c = false := by
  rcases number with digit | rfl
  · exact Numeral.isBlank_of_isDigit digit
  · decide

/-- An element is some text with no blank at its ends. -/
theorem FaithfulItem.element (h : FaithfulItem v) : Element v.text.toList := by
  have passes := h.balanced 0
  cases h with
  | null => exact ⟨by decide, by decide, passes⟩
  | bool b => cases b <;> exact ⟨by decide, by decide, passes⟩
  | int n =>
    exact ⟨text_int_ne_nil n, Text.trim_eq_self fun c hc => isBlank_of_number (mem_text_int hc),
      passes⟩
  | string free =>
    rw [toList_text_string] at passes ⊢
    exact ⟨List.cons_ne_nil _ _, Text.trim_enclosed (by decide) (by decide) _, passes⟩
  | array each =>
    rw [toList_text_array] at passes ⊢
    exact ⟨List.cons_ne_nil _ _, Text.trim_enclosed (by decide) (by decide) _, passes⟩
  | @reference s starts plain closed =>
    obtain ⟨rest, whole⟩ := starts
    have first : ∀ c ∈ s.toList.head?, Text.isBlank c = false := by
      rw [← whole]
      simp
      decide
    have nonempty : s.toList ≠ [] := by
      rw [← whole]
      exact List.cons_ne_nil _ _
    exact ⟨nonempty, Text.trim_of_ends first closed, passes⟩

-- ---------------------------------------------------------------------------
-- Reading back
-- ---------------------------------------------------------------------------

/-- The text of an array is read as an array, element by element. -/
theorem read_text_array (each : ∀ item ∈ items, FaithfulItem item) :
    read (text (.array items)).toList = .array (items.map fun item => read item.text.toList) := by
  have elements : ∀ e ∈ items.map (fun item => item.text.toList), Element e := by
    intro e he
    obtain ⟨item, member, rfl⟩ := List.mem_map.1 he
    exact (each item member).element
  rw [toList_text_array, read_braced, trim_joined elements, split_joined elements, List.map_map]
  rfl

theorem read_text_reference {s : String} (starts : "instance".toList <+: s.toList) :
    read (text (.reference s)).toList = .reference s := by
  rw [text, read_of_reference starts, String.ofList_toList]

theorem read_text_string (s : String) : read (text (.string s)).toList = .string s := by
  rw [toList_text_string, read_quoted, String.ofList_toList]

theorem read_text_null : read (text .null).toList = .null := by
  show read ('n' :: "ull".toList) = .null
  rw [read_of_scalar (by decide) (by decide) (by decide)]
  rfl

theorem read_text_bool (b : Bool) : read (text (.bool b)).toList = .bool b := by
  cases b with
  | true =>
    show read ('t' :: "rue".toList) = .bool true
    rw [read_of_scalar (by decide) (by decide) (by decide)]
    rfl
  | false =>
    show read ('f' :: "alse".toList) = .bool false
    rw [read_of_scalar (by decide) (by decide) (by decide)]
    rfl

theorem FaithfulItem.read_text (h : FaithfulItem v) : read v.text.toList = v := by
  induction h with
  | null => exact read_text_null
  | bool b => exact read_text_bool b
  | int n => exact read_int n
  | string free => exact read_text_string _
  | @array items each ih =>
    have same : items.map (fun item => read item.text.toList) = items := by
      rw [List.map_congr_left ih, List.map_id']
    rw [read_text_array each, same]
  | reference starts plain closed => exact read_text_reference starts

/-- A value without floats is read back from its text as it was: in an array, of any depth, a string
has no double quote, and a reference no comma, quote or brace and no blank at its end. -/
theorem parse_text (h : Faithful v) : parse v.text = v := by
  cases h with
  | null => exact read_text_null
  | bool b => exact read_text_bool b
  | int n => exact read_int n
  | string s => exact read_text_string s
  | array each => exact (FaithfulItem.array each).read_text
  | reference starts => exact read_text_reference starts

/-- Strings with commas, braces and single quotes, strings that look like other values, an empty
string and an empty array. -/
def confusing : Value :=
  .array [.string "a, \x7bb", .string "it's", .array [.string "null", .string "-42", .string ""],
    .array [], .reference "instance of int[3] (id=7)", .int (-42), .null]

theorem parse_text_confusing :
    Faithful confusing ∧ parse confusing.text = confusing ∧
      confusing.text = "\x7b\"a, \x7bb\", \"it's\", \x7b\"null\", \"-42\", \"\"\x7d, \x7b\x7d, " ++
        "instance of int[3] (id=7), -42, null\x7d" := by
  have faithful : Faithful confusing := by
    apply Faithful.array
    simp only [List.forall_mem_cons]
    refine ⟨.string (by decide), .string (by decide), .array ?_, .array (by simp),
      .reference (by decide) (by decide) (by decide), .int _, .null, by simp⟩
    simp only [List.forall_mem_cons]
    exact ⟨.string (by decide), .string (by decide), .string (by decide), by simp⟩
  exact ⟨faithful, parse_text faithful, by rfl⟩

end Retrace.Value
