import Retrace.Proofs.Debugger.Printed
import Retrace.Proofs.Debugger.Shapes
import Retrace.Proofs.Pattern.LineStart
import Retrace.Proofs.Text.Lines

/-!
# Reading up to the prompt

The prompt ends every answer. It is not found before the end if no line of the
answer looks like it, which is so for a line whose first word is followed by a
blank.
-/

namespace Retrace.Printed

open Message

/-- A line that cannot be taken for a prompt: something other than a bracket ends its first word. -/
def Unprompted (line : List Char) : Prop :=
  ∃ word c tail, line = word ++ c :: tail ∧ (∀ d ∈ word, inThread d = true) ∧
    inThread c = false ∧ c ≠ '['

theorem unprompted_return : Unprompted ['\r'] :=
  ⟨[], '\r', [], rfl, by simp, by decide, by decide⟩

theorem anchored_prompt : Message.prompt.expr.Anchored :=
  Expr.anchored_lineStart.seq.seq.seq.seq

theorem ways_prompt_eq_nil {line : List Char} (h : Unprompted line) (previous : Option Char)
    (rest : List Char) : Message.prompt.expr.ways previous (line ++ rest) = [] := by
  obtain ⟨word, c, tail, rfl, hword, hc, bracket⟩ := h
  refine List.eq_nil_iff_forall_not_mem.2 fun x hx => bracket ?_
  obtain ⟨-, thread, number, text_eq, ⟨-, hthread⟩, -⟩ :=
    covers_prompt.1 (Expr.covers_of_mem_ways rfl hx)
  have whole := Expr.ways_append hx
  rw [text_eq] at whole
  have cut : word ++ c :: (tail ++ rest) = thread ++ '[' :: (number ++ "] ".toList ++ x.rest) := by
    simpa using whole.symm
  exact (Text.run_cut hword hthread hc (by decide) cut).2.1

/-- Lines, each with a line feed at its end. -/
def feedLines (lines : List (List Char)) : List Char :=
  lines.flatMap (· ++ ['\n'])

theorem feedLines_cons (line : List Char) (lines : List (List Char)) :
    feedLines (line :: lines) = line ++ '\n' :: feedLines lines := by
  simp [feedLines]

theorem getLast?_feedLines (lines : List (List Char)) :
    (feedLines lines).getLast? = none ∨ (feedLines lines).getLast? = some '\n' := by
  rcases List.eq_nil_or_concat' lines with rfl | ⟨front, last, rfl⟩
  · exact .inl rfl
  · exact .inr (by simp [feedLines])

/-- A text is made up of the lines that are ended and of the last one. -/
theorem exists_feedLines (t : List Char) :
    ∃ lines last, Text.splitOn '\n' t = lines ++ [last] ∧ t = feedLines lines ++ last := by
  obtain ⟨first, others, cut⟩ := List.exists_cons_of_ne_nil (Text.splitOn_ne_nil '\n' t)
  rw [cut, ← Text.splitOn_flatten cut]
  clear cut
  induction others generalizing first with
  | nil => exact ⟨[], first, rfl, by simp [feedLines]⟩
  | cons next others ih =>
    obtain ⟨lines, last, same, text⟩ := ih next
    exact ⟨first :: lines, last, by simp [same], by simp [feedLines_cons, ← text]⟩

theorem misses_prompt {lines : List (List Char)} (h : ∀ l ∈ lines, '\n' ∉ l ∧ Unprompted l)
    (previous : Option Char) (rest : List Char) :
    Message.prompt.expr.Misses previous (feedLines lines) rest := by
  induction lines generalizing previous with
  | nil => exact Expr.misses_nil
  | cons line lines ih =>
    obtain ⟨⟨free, plain⟩, others⟩ := List.forall_mem_cons.1 h
    rw [feedLines_cons]
    exact anchored_prompt.misses_cons_line free (ways_prompt_eq_nil plain _ _) (ih others _)

theorem isPrompt_prompt : IsPrompt prompt :=
  ⟨"main".toList, "1".toList, rfl, by decide, by decide⟩

/-- A prompt at the start of a line is found if there is none before it. -/
theorem take?_prompt_of_misses {lead w : List Char} (isPrompt : IsPrompt w)
    (start : lead.getLast? = none ∨ lead.getLast? = some '\n')
    (misses : Message.prompt.expr.Misses none lead w) {b : Buffer} (hb : b.pending = lead ++ w) :
    b.take? Message.prompt = some (⟨.ofList lead, .ofList w⟩, { b with pending := [] }) := by
  obtain ⟨x, first, text_eq, rest_eq⟩ := prompt_settled.first_of_covers rfl
    (covers_prompt.2 ⟨start, isPrompt⟩) []
  have picks : Message.prompt.expr.Picks b.pending lead x := by
    refine ⟨by simp [text_eq, rest_eq, hb], ?_, ?_⟩
    · rw [text_eq, rest_eq]
      simpa using first
    · rw [text_eq, rest_eq, List.append_nil]
      exact misses
  rw [Buffer.take?_of_picks picks, text_eq, rest_eq]

/-- A prompt after lines that do not look like one is found. -/
theorem take?_prompt {w : List Char} (isPrompt : IsPrompt w) {lines : List (List Char)}
    (h : ∀ l ∈ lines, '\n' ∉ l ∧ Unprompted l) {b : Buffer}
    (hb : b.pending = feedLines lines ++ w) :
    b.take? Message.prompt =
      some (⟨.ofList (feedLines lines), .ofList w⟩, { b with pending := [] }) :=
  take?_prompt_of_misses isPrompt (getLast?_feedLines lines) (misses_prompt h _ _) hb

/-- A prompt after an empty line is found if nothing but blanks waits before. -/
theorem take?_prompt_of_blanks {stale w : List Char} (isPrompt : IsPrompt w)
    (blank : ∀ c ∈ stale, Text.isBlank c = true) {b : Buffer}
    (hb : b.pending = stale ++ "\r\n".toList ++ w) :
    b.take? Message.prompt =
      some (⟨.ofList (stale ++ "\r\n".toList), .ofList w⟩, { b with pending := [] }) := by
  have blanks : ∀ c ∈ stale ++ "\r\n".toList, Text.isBlank c = true := by
    intro c hc
    rcases List.mem_append.1 hc with old | new
    · exact blank c old
    · exact (by decide : ∀ c ∈ "\r\n".toList, Text.isBlank c = true) c new
  refine take?_prompt_of_misses isPrompt (.inr (by simp)) ?_ hb
  intro u c v cut
  have plain : Unprompted [c] := by
    have here := blanks c (by rw [cut]; simp)
    refine ⟨[], c, [], rfl, by simp, by simp [inThread, here], ?_⟩
    rintro rfl
    exact absurd here (by decide)
  exact ways_prompt_eq_nil plain _ _

end Retrace.Printed
