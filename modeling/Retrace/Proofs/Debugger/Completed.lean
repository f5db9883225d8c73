import Retrace.Proofs.Debugger.Stop

/-!
# Numbers that are too large

The line and the byte code index of a completed step, and the number of the
source line, may have any number of digits. Each of them is read if it fits 32
bits and left out otherwise, and nothing else of the event changes.
-/

namespace Retrace.Printed

open Message

-- ---------------------------------------------------------------------------
-- The header
-- ---------------------------------------------------------------------------

/-- The names in a place have no blank. -/
structure Location.Compact (l : Location) : Prop where
  thread : ∀ c ∈ l.thread, Text.isBlank c = false
  className : ∀ c ∈ l.className, Text.isBlank c = false
  method : ∀ c ∈ l.method, Text.isBlank c = false

namespace Location

variable {l : Location}

theorem Compact.label (h : l.Compact) : ∀ c ∈ l.label, Text.isBlank c = false := by
  intro c hc
  simp only [Location.label, List.mem_append, List.mem_cons] at hc
  rcases hc with (hc | rfl | hc) | hc
  · exact h.className c hc
  · decide
  · exact h.method c hc
  · exact (by decide : ∀ c ∈ "()".toList, Text.isBlank c = false) c hc

theorem header_completed (l : Location) :
    l.header .completed = Title.completed.head ++ (" \"thread=".toList ++ (l.thread ++
      ("\", ".toList ++ (l.label ++ (", line=".toList ++ (l.line.text ++ (" bci=".toList ++
        (l.bci.text ++ "\r\n".toList)))))))) :=
  rfl

/-- The header of a completed step, word by word. -/
theorem Compact.words (h : l.Compact) :
    Text.splitOn ' ' (l.header .completed) =
      ["Step".toList, "completed:".toList, "\"thread=".toList ++ l.thread ++ "\",".toList,
        l.label ++ ",".toList, "line=".toList ++ l.line.text,
        "bci=".toList ++ l.bci.text ++ "\r\n".toList] := by
  have thread : ' ' ∉ l.thread := fun hc => absurd (h.thread _ hc) (by decide)
  have label : ' ' ∉ l.label := fun hc => absurd (h.label _ hc) (by decide)
  have line : ' ' ∉ l.line.text := l.line.notMem (by decide)
  have bci : ' ' ∉ l.bci.text := l.bci.notMem (by decide)
  have cut : l.header .completed = "Step".toList ++ ' ' :: ("completed:".toList ++ ' ' ::
      (("\"thread=".toList ++ l.thread ++ "\",".toList) ++ ' ' :: ((l.label ++ ",".toList) ++ ' ' ::
        (("line=".toList ++ l.line.text) ++ ' ' ::
          ("bci=".toList ++ l.bci.text ++ "\r\n".toList))))) := by
    have title : Title.completed.head = "Step".toList ++ ' ' :: "completed:".toList := by decide
    have name : " \"thread=".toList = ' ' :: "\"thread=".toList := by decide
    have comma : "\", ".toList = "\",".toList ++ [' '] := by decide
    have number : ", line=".toList = ",".toList ++ ' ' :: "line=".toList := by decide
    have index : " bci=".toList = ' ' :: "bci=".toList := by decide
    rw [header_completed, title, name, comma, number, index]
    generalize "Step".toList = a, "completed:".toList = b, "\"thread=".toList = t, "\",".toList = u,
      ",".toList = v, "line=".toList = w, "bci=".toList = x, "\r\n".toList = ending
    simp only [List.append_assoc, List.cons_append, List.nil_append]
  rw [cut, Text.splitOn_append, Text.splitOn_append, Text.splitOn_append, Text.splitOn_append,
    Text.splitOn_append, Text.splitOn_of_notMem (by decide), Text.splitOn_of_notMem (by decide),
    Text.splitOn_of_notMem (by simp [thread]), Text.splitOn_of_notMem (by simp [label]),
    Text.splitOn_of_notMem (by simp [line]), Text.splitOn_of_notMem (by simp [bci])]
  rfl

/-- How the words before the last one end. -/
theorem Compact.word_ends (h : l.Compact) {word : List Char}
    (hw : word ∈ (Text.splitOn ' ' (l.header .completed)).dropLast) :
    ∃ c, word.getLast? = some c ∧ (c ∈ ['p', ':', ','] ∨ c.isDigit = true) := by
  simp only [h.words, List.dropLast, List.mem_cons, List.not_mem_nil, or_false] at hw
  rcases hw with rfl | rfl | rfl | rfl | rfl
  · exact ⟨'p', by decide, by simp⟩
  · exact ⟨':', by decide, by simp⟩
  · exact ⟨',', by rw [List.getLast?_append]; rfl, by simp⟩
  · exact ⟨',', by rw [List.getLast?_append]; rfl, by simp⟩
  · obtain ⟨number, c, cut⟩ := (List.eq_nil_or_concat' _).resolve_left l.line.nonempty
    have last : ("line=".toList ++ l.line.text).getLast? = some c := by
      rw [List.getLast?_append, cut, List.getLast?_concat, Option.some_or]
    exact ⟨c, last, .inr (l.line.digit c (by simp [cut]))⟩

/-- A phrase does not occur in the header if no word there ends as its first word does. -/
theorem Compact.not_infix (h : l.Compact) {first second : List Char} {d : Char}
    (free : ' ' ∉ first) (last : first.getLast? = some d) (letter : d ∉ ['p', ':', ','])
    (digit : d.isDigit = false) : ¬ first ++ ' ' :: second <:+: l.header .completed := by
  intro within
  obtain ⟨word, found, ends⟩ := Text.exists_piece_of_infix free within
  obtain ⟨c, word_last, allowed⟩ := h.word_ends found
  have same : c = d := by
    obtain ⟨u, rfl⟩ := ends
    simpa [List.getLast?_append, last] using word_last.symm
  subst same
  rcases allowed with mark | numeral
  · exact letter mark
  · simp [numeral] at digit

/-- No exception is announced. -/
theorem Compact.unexceptional (h : l.Compact) :
    ¬ exceptionMarker.toList <:+: l.header .completed := by
  have marker : exceptionMarker.toList = "Exception".toList ++ ' ' :: "occurred:".toList := by decide
  rw [marker]
  exact h.not_infix (by decide) (rfl : _ = some 'n') (by decide) (by decide)

/-- No method entry is announced. -/
theorem Compact.unentered (h : l.Compact) :
    ¬ methodEnteredMarker.toList <:+: l.header .completed := by
  have marker : methodEnteredMarker.toList = "Method".toList ++ ' ' :: "entered:".toList := by decide
  rw [marker]
  exact h.not_infix (by decide) (rfl : _ = some 'd') (by decide) (by decide)

/-- The header has no source line. -/
theorem Compact.find?_sourceListing (h : l.Compact) :
    sourceListing.find? (l.header .completed) = none := by
  have thread : '\n' ∉ l.thread := fun hc => absurd (h.thread _ hc) (by decide)
  have label : '\n' ∉ l.label := fun hc => absurd (h.label _ hc) (by decide)
  have line : '\n' ∉ l.line.text := l.line.notMem (by decide)
  have bci : '\n' ∉ l.bci.text := l.bci.notMem (by decide)
  have ending : "\r\n".toList = ['\r'] ++ ['\n'] := by decide
  have cut : l.header .completed = feedLines [Title.completed.head ++ (" \"thread=".toList ++
      (l.thread ++ ("\", ".toList ++ (l.label ++ (", line=".toList ++ (l.line.text ++
        (" bci=".toList ++ (l.bci.text ++ ['\r']))))))))] := by
    rw [header_completed, ending]
    generalize Title.completed.head = title, " \"thread=".toList = t, "\", ".toList = u,
      ", line=".toList = v, " bci=".toList = w
    simp [feedLines]
  rw [cut]
  refine find?_sourceListing_headerLines fun part hp => ?_
  rw [List.mem_singleton.1 hp]
  exact headerLine_of_title (by simp [thread, label, line, bci])

/-- The header is read as a plain step, or as a method entry if one was announced before. -/
theorem Compact.ofHeader (h : l.Compact) (entered : Bool) :
    StepEvent.ofHeader (l.header .completed) entered =
      { kind := if entered then .methodEntry else .step
        thread := some (.ofList l.thread)
        label := some (.ofList l.label)
        method := some (.ofList l.method)
        line := l.line.fit?
        bci := l.bci.fit? } := by
  have plain : Title.completed.Plain := by simp [Title.Plain, Title.returned?]
  obtain ⟨m, hm, two, three, four, five, six, seven⟩ := l.find?_header plain
  have returned : m.group? 2 = none := two
  simp [StepEvent.ofHeader, hm, returned, three, four, five, six, seven, number?_text,
    dropWhile_method l.method_free.2, occursIn_eq_false h.unentered]

end Location

-- ---------------------------------------------------------------------------
-- The text after the header
-- ---------------------------------------------------------------------------

/-- What may follow a header up to the prompt. -/
inductive Block where
  /-- No line shows a line of source. -/
  | bare (text : List Char) (unlisted : ∀ line ∈ Text.splitOn '\n' text, isListed line = false)
  /-- The first line that shows one. Anything may follow behind its ending. -/
  | shown (before : List (List Char)) (line : SourceLine) (rest : List Char)
    (unlisted : ∀ l ∈ before, '\n' ∉ l ∧ isListed l = false)
    (ends : ∀ c, rest.head? = some c → inLine c = false)

namespace Block

def text : Block → List Char
  | bare text _ => text
  | shown before line rest _ _ => feedLines before ++ (line.text ++ rest)

/-- The source line. -/
def line? : Block → Option SourceLine
  | bare .. => none
  | shown _ line .. => some line

/-- The source is read, and its number if it fits. -/
theorem withListing (b : Block) (e : StepEvent) (h : e.instruction = none) :
    e.withListing b.text =
      { e with
        line := (b.line?.bind fun l => l.number.fit?).or e.line
        instruction := b.line?.map fun l => .ofList l.source } := by
  cases b with
  | bare text unlisted =>
    obtain ⟨lines, last, cut, rfl⟩ := exists_feedLines text
    have free (line : List Char) (hl : line ∈ lines ++ [last]) : '\n' ∉ line :=
      Text.notMem_of_mem_splitOn (cut ▸ hl)
    rw [cut] at unlisted
    have nothing : sourceListing.find? (feedLines lines ++ last) = none := by
      refine find?_sourceListing_eq_none (fun l hl => ?_) (free last (by simp))
        (unlisted last (by simp))
      exact ⟨free l (by simp [hl]), unlisted l (by simp [hl])⟩
    simp [Block.text, line?, StepEvent.withListing, nothing, ← h]
  | shown before line rest unlisted ends =>
    obtain ⟨m, hm, number, source⟩ := line.find?_sourceListing unlisted ends
    simp [Block.text, line?, StepEvent.withListing, hm, number, source, number?_text]

end Block

/-- A completed step is read whatever the size of its numbers: a number that does not fit is left
out, or replaced by the one of the header if the source line has it, and all else is read. -/
theorem ofOutput?_completed (l : Location) (compact : l.Compact) (block : Block) (entered : Bool) :
    StepEvent.ofOutput? (l.header .completed) block.text entered =
      some {
        kind := if entered then .methodEntry else .step
        thread := some (.ofList l.thread)
        label := some (.ofList l.label)
        method := some (.ofList l.method)
        line := (block.line?.bind fun shown => shown.number.fit?).or l.line.fit?
        bci := l.bci.fit?
        instruction := block.line?.map fun shown => .ofList shown.source
        returned := none } := by
  have header (e : StepEvent) : e.withListing (l.header .completed) = e := by
    simp [StepEvent.withListing, compact.find?_sourceListing]
  rw [StepEvent.ofOutput?, occursIn_eq_false compact.unexceptional, if_neg Bool.false_ne_true,
    compact.ofHeader, header, block.withListing _ rfl]

/-- A place with a large line and with an index that is just small enough. -/
def farAway : Location where
  thread := "worker-1,x".toList
  className := "pkg.Outer$Inner".toList
  method := "<init>".toList
  line := ⟨"99999999999999999999".toList, by decide, by decide⟩
  bci := ⟨"0004294967295".toList, by decide, by decide⟩
  thread_free := by decide
  class_free := by decide
  class_pieces := by decide
  method_ne := by decide
  method_free := by decide

/-- A source line whose number is just too large. -/
def tooLarge : SourceLine where
  number := ⟨"4294967296".toList, by decide, by decide⟩
  gap := "\t ".toList
  source := "7 + x; // 8  ".toList
  gap_ne := by decide
  gap_blank := by decide
  source_ne := by decide
  source_line := by decide
  source_start := by decide

/-- Lines that almost show source, the source line, and another one. -/
def misplaced : Block :=
  .shown ["12".toList, "x 3 y".toList, "4 ".toList] tooLarge "\r\n5 later".toList (by decide)
    (by decide)

/-- The index is read although it has zeros in front, and the source although no line number fits. -/
theorem ofOutput?_farAway :
    farAway.Compact ∧
      StepEvent.ofOutput? (farAway.header .completed) misplaced.text true =
        some {
          kind := .methodEntry
          thread := some "worker-1,x"
          label := some "pkg.Outer$Inner.<init>()"
          method := some "<init>"
          line := none
          bci := some 4294967295
          instruction := some "7 + x; // 8  "
          returned := none } := by
  have compact : farAway.Compact := ⟨by decide, by decide, by decide⟩
  exact ⟨compact, ofOutput?_completed farAway compact misplaced true⟩

end Retrace.Printed
