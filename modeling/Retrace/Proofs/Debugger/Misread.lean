import Retrace.Proofs.Debugger.Event
import Retrace.Proofs.Debugger.Listing
import Retrace.Proofs.Value.Marks

/-!
# Stops that are misread

A stop that is read as what was printed was legible. A returned value with a
comma is the case with an argument in it: what the pattern for places takes for
the value, wherever it finds one, has fewer equals signs than the value that was
printed, and so it is read as another value.
-/

namespace Retrace.Printed

open Message Retrace.Expr

-- ---------------------------------------------------------------------------
-- Values with commas
-- ---------------------------------------------------------------------------

/-- What stands before a value that is returned. -/
def exitTitle : List Char :=
  "Method exited: return value = ".toList

/-- What stands before the name of a thread, after its quote. -/
def threadTitle : List Char :=
  "thread=".toList

/-- A title of a method exit stands after the start of a text that starts with one only if an equals
sign is before it. -/
theorem count_pos_of_later {front u v : List Char} (later : front ≠ [])
    (h : front ++ (exitTitle ++ u) = exitTitle ++ v) : 1 ≤ front.count '=' := by
  rcases List.append_eq_append_iff.1 h with ⟨t, ht, hv⟩ | ⟨t, rfl, -⟩
  · -- The second title would start within the first one, at a letter that it has at its start only.
    have free : 'M' ∉ exitTitle.tail := by decide
    cases front with
    | nil => exact absurd rfl later
    | cons c front =>
      rw [ht] at free
      cases t with
      | nil =>
        have whole : exitTitle.count '=' = 1 := by decide
        have front_eq : exitTitle = c :: front := by simpa using ht
        rw [← front_eq, whole]
      | cons d t =>
        have starts : exitTitle.head? = some 'M' := by decide
        have first := congrArg List.head? hv
        simp only [List.head?_append, starts, List.cons_append, List.head?_cons, Option.some_or,
          Option.some.injEq] at first
        simp [← first] at free
  · have whole : exitTitle.count '=' = 1 := by decide
    rw [List.count_append, whole]
    exact Nat.le_add_right _ _

/-- A value behind a later title, up to the end of the value behind the first one, has fewer equals
signs. -/
theorem count_lt_of_same_end {v w front : List Char} (other : w ≠ v)
    (h : front ++ (exitTitle ++ w) = exitTitle ++ v) : w.count '=' < v.count '=' := by
  have title_count : exitTitle.count '=' = 1 := by decide
  have later : front ≠ [] := by
    rintro rfl
    exact other (List.append_cancel_left h)
  have front_count := count_pos_of_later later h
  have counts := congrArg (List.count '=') h
  simp only [List.count_append, title_count] at counts
  omega

/-- So has a value that ends before the title of a thread in the other value. -/
theorem count_lt_of_within {v w front between rest : List Char}
    (h : front ++ (exitTitle ++ (w ++ (between ++ (threadTitle ++ rest)))) = exitTitle ++ v) :
    w.count '=' < v.count '=' := by
  have title_count : exitTitle.count '=' = 1 := by decide
  have thread_count : threadTitle.count '=' = 1 := by decide
  have counts := congrArg (List.count '=') h
  simp only [List.count_append, title_count, thread_count] at counts
  omega

/-- If only one quote comes after the title of a thread, the title does not stand behind that. -/
theorem prefix_of_thread {thread tail z rest : List Char} (thread_free : '"' ∉ thread)
    (tail_free : '"' ∉ tail)
    (h : threadTitle ++ (thread ++ '"' :: tail) = z ++ '"' :: (threadTitle ++ rest)) :
    threadTitle <+: tail := by
  have title_free : '"' ∉ threadTitle := by decide
  have cut : (threadTitle ++ thread) ++ '"' :: tail = z ++ '"' :: (threadTitle ++ rest) := by
    rw [← h, List.append_assoc]
  have front_free : '"' ∉ threadTitle ++ thread := by simp [title_free, thread_free]
  exact ⟨rest, ((List.append_cons_inj_of_notMem front_free tail_free).1 cut).2.2.symm⟩

/-- In a line with the value `v`, of which `tail` has no quote, another value that stands between an
exit title and a thread has fewer equals signs. -/
theorem count_lt_of_other {v w front thread tail rest : List Char} (other : w ≠ v)
    (thread_free : '"' ∉ thread) (tail_free : '"' ∉ tail) (ends : ¬ threadTitle <+: tail)
    (h : front ++ (exitTitle ++ (w ++ (", ".toList ++ '"' :: (threadTitle ++ rest)))) =
      exitTitle ++ (v ++ (", ".toList ++ '"' :: (threadTitle ++ (thread ++ '"' :: tail))))) :
    w.count '=' < v.count '=' := by
  have title_free : '"' ∉ threadTitle := by decide
  have comma_count : ", ".toList.count '=' = 0 := by decide
  generalize ", ".toList = comma at h comma_count
  have cut : (front ++ (exitTitle ++ (w ++ comma))) ++ '"' :: (threadTitle ++ rest) =
      (exitTitle ++ (v ++ comma)) ++ '"' :: (threadTitle ++ (thread ++ '"' :: tail)) := by
    simpa using h
  have at_same_quote (same : front ++ (exitTitle ++ (w ++ comma)) = exitTitle ++ (v ++ comma)) :
      w.count '=' < v.count '=' := by
    have ends : front ++ (exitTitle ++ w) = exitTitle ++ v := by
      simpa [← List.append_assoc] using same
    exact count_lt_of_same_end other ends
  rcases List.append_eq_append_iff.1 cut with ⟨z, hz, after⟩ | ⟨z, hz, after⟩
  · cases z with
    | nil => exact at_same_quote (by simpa using hz.symm)
    | cons d z =>
      -- The other value ends before the quote, so the title of a thread is between them.
      obtain ⟨rfl, within⟩ := List.cons.inj after
      obtain ⟨t, rfl⟩ := Text.prefix_of_notMem title_free within
      have between : front ++ (exitTitle ++ (w ++ ((comma ++ ['"']) ++ (threadTitle ++ t)))) =
          exitTitle ++ (v ++ comma) := by
        simp [hz]
      have fewer := count_lt_of_within between
      rwa [List.count_append, comma_count] at fewer
  · cases z with
    | nil => exact at_same_quote (by simpa using hz)
    | cons d z =>
      -- The quote of the other thread is the last one of the line, and what follows is no thread.
      obtain ⟨rfl, within⟩ := List.cons.inj after
      exact absurd (prefix_of_thread thread_free tail_free within) ends

-- ---------------------------------------------------------------------------
-- Where the pattern for places finds a value
-- ---------------------------------------------------------------------------

/-- A title with a value is one of a method exit, and the value has no comma. -/
theorem text_of_title {previous : Option Char} {t w : List Char} {x : Way}
    (h : x ∈ titleExpr.ways previous t) (hw : x.group? 2 = some w) :
    x.text = exitTitle ++ (w ++ ",".toList) ∧ ',' ∉ w := by
  obtain ⟨y, hy, rfl⟩ := mem_ways_group_iff.1 h
  have inner : y.group? 2 = some w := by simpa [Way.group?] using hw
  -- A fixed text remembers nothing, so the way is that of a method exit.
  have fixed {u : String} {previous : Option Char} {s : List Char} {way : Way}
      (hl : way ∈ (lit u).ways previous s) : way.text = u.toList ∧ way.group? 2 = none := by
    obtain ⟨rest, -, rfl⟩ := mem_ways_text_iff.1 hl
    exact ⟨rfl, rfl⟩
  have exited : y ∈ (lit "Method exited: return value = " ++
      group 2 (many1 (but [','])) ++ lit ",").ways previous t := by
    rcases mem_ways_alt_iff.1 hy with hl | hy
    · simp [(fixed hl).2] at inner
    · rcases mem_ways_alt_iff.1 hy with hl | hy
      · simp [(fixed hl).2] at inner
      · exact hy
  obtain ⟨z, hz, comma, hc, rfl⟩ := exists_of_mem_ways_seq exited
  obtain ⟨first, hf, value, hv, rfl⟩ := exists_of_mem_ways_seq hz
  have value_text := group?_of_mem_group hv
  simp only [group?_andThen, (fixed hc).2, Option.none_or, value_text, Option.some_or,
    Option.some.injEq] at inner
  have covered := covers_of_mem_ways rfl hv
  rw [covers_group, covers_many1, inner] at covered
  refine ⟨?_, fun hc => absurd (covered.2 _ hc) (by decide)⟩
  simp only [Way.andThen, (fixed hf).1, (fixed hc).1, inner, List.append_assoc]
  rfl

/-- A place with a value has the title of a method exit, the value, and a thread. -/
theorem text_of_stepLocation {previous : Option Char} {t w : List Char} {x : Way}
    (h : x ∈ stepLocation.expr.ways previous t) (hw : x.group? 2 = some w) :
    ',' ∉ w ∧ ∃ rest, t = exitTitle ++ (w ++ (", ".toList ++ '"' :: (threadTitle ++ rest))) := by
  simp only [stepLocation_expr, ways_assoc] at h
  obtain ⟨y, hy, z, hz, rfl⟩ := exists_of_mem_ways_seq h
  have later : z.group? 2 = none := Captures.text?_eq_none fun cap hc => by
    have known := mem_groups_of_mem_captures hz hc
    have others : ∀ n ∈ [3, 4, 5, 6, 7], n ≠ 2 := by decide
    exact others _ known
  rw [group?_andThen, later, Option.none_or] at hw
  obtain ⟨rest, hrest⟩ : " \"thread=".toList <+: y.rest := by
    by_contra other
    rw [ways_lit_seq_eq_nil other] at hz
    simp at hz
  have fixed : ",".toList ++ " \"thread=".toList = ", ".toList ++ '"' :: threadTitle := by decide
  obtain ⟨title_text, free⟩ := text_of_title hy hw
  refine ⟨free, rest, ?_⟩
  rw [← ways_append hy, title_text, ← hrest]
  simp only [List.append_assoc, List.append_cancel_left_eq]
  rw [← List.append_assoc, fixed]
  simp

-- ---------------------------------------------------------------------------
-- Returned values
-- ---------------------------------------------------------------------------

variable {s : Stop}

/-- What follows the name of the thread in a header, after its quote. -/
def Stop.afterThread (s : Stop) : List Char :=
  ", ".toList ++ (s.label.toList ++ (", line=".toList ++ (Stop.digits s.line ++ (" bci=".toList ++
    (Stop.digits s.bci ++ "\r\n".toList)))))

theorem afterThread_free : '"' ∉ s.afterThread := by
  have label : '"' ∉ s.label.toList := by
    have class_free : '"' ∉ s.className.toList := notMem_of_but s.class_free (by decide)
    have method_free : '"' ∉ s.method.toList := notMem_of_but s.method_free (by decide)
    simp [label_toList, class_free, method_free]
  have numbers (n : UInt32) : '"' ∉ Stop.digits n := notMem_digits (by decide)
  have fixed : '"' ∉ ", ".toList ∧ '"' ∉ ", line=".toList ∧ '"' ∉ " bci=".toList ∧
      '"' ∉ "\r\n".toList := by decide
  unfold Stop.afterThread
  simp only [List.mem_append, label, numbers, fixed, or_self, not_false_eq_true]

theorem exitLine_eq {value : String} {nonempty : value ≠ ""}
    {line : ∀ c ∈ value.toList, inLine c = true} (ht : s.title = .exited value nonempty line) :
    s.mainLine ++ "\r\n".toList = exitTitle ++ (value.toList ++ (", ".toList ++ '"' ::
      (threadTitle ++ (s.thread.toList ++ '"' :: s.afterThread)))) := by
  have quote : "\"thread=".toList = '"' :: threadTitle := by decide
  have closing : "\", ".toList = '"' :: ", ".toList := by decide
  have blank : ", ".toList = ",".toList ++ [' '] := by decide
  have head : s.title.head = exitTitle ++ (value.toList ++ ",".toList) := by
    rw [ht]
    rfl
  have after : s.afterThread = ", ".toList ++ (s.label.toList ++ (", line=".toList ++
      (Stop.digits s.line ++ (" bci=".toList ++ (Stop.digits s.bci ++ "\r\n".toList))))) := rfl
  rw [Stop.mainLine, head, place_eq, quote, closing, after, blank]
  generalize ",".toList = comma, ", line=".toList = numbered, " bci=".toList = indexed,
    "\r\n".toList = ending
  simp only [List.append_assoc, List.cons_append, List.nil_append]

/-- No place on the line of a method exit has the value that is returned, if that has a comma. -/
theorem returned_ne {value : String} {nonempty : value ≠ ""}
    {line : ∀ c ∈ value.toList, inLine c = true} (ht : s.title = .exited value nonempty line)
    (comma : ',' ∈ value.toList) {front t : List Char} (hs : front ++ t = s.mainLine ++ "\r\n".toList)
    {m : Match} (hm : stepLocation.find? t = some m) :
    (m.group? 2).map Value.read ≠ some (Value.parse value) := by
  intro same
  obtain ⟨w, hw, read_eq⟩ := Option.map_eq_some_iff.1 same
  obtain ⟨before, x, picks, rfl⟩ := Pattern.exists_picks_of_find? hm
  obtain ⟨free, rest, place⟩ := text_of_stepLocation (List.mem_of_mem_head? picks.first_eq) hw
  have other : w ≠ value.toList := by
    rintro rfl
    exact free comma
  have no_thread : ¬ threadTitle <+: s.afterThread := by
    rintro ⟨u, hu⟩
    have starts : threadTitle.head? = some 't' ∧ ", ".toList.head? = some ',' := by decide
    have first := congrArg List.head? hu
    simp [Stop.afterThread, List.head?_append, starts] at first
  have cut : (front ++ before) ++ (exitTitle ++ (w ++ (", ".toList ++ '"' :: (threadTitle ++ rest)))) =
      exitTitle ++ (value.toList ++ (", ".toList ++ '"' ::
        (threadTitle ++ (s.thread.toList ++ '"' :: s.afterThread)))) := by
    rw [← place, List.append_assoc, picks.text_eq, hs, exitLine_eq ht]
  have fewer := count_lt_of_other other (notMem_of_but s.thread_free (by decide)) afterThread_free
    no_thread cut
  have kept := congrArg (Value.marks '=') read_eq
  rw [Value.parse, Value.marks_read (.inl rfl), Value.marks_read (.inl rfl)] at kept
  omega

-- ---------------------------------------------------------------------------
-- Where a header is found
-- ---------------------------------------------------------------------------

variable {lead prompt : List Char}

/-- The lines of the answer to a step. -/
theorem textBetween_lines (front : s.title.front = []) :
    s.textBetween lead prompt = lead ++ ((s.mainLine ++ ['\r']) ++ '\n' ::
      ((s.sourceLine ++ ['\r']) ++ '\n' :: (['\r'] ++ '\n' :: prompt))) := by
  rw [Stop.textBetween, header_mainLine, front]
  simp

/-- A line of a header ends where the main line or the source line does. -/
theorem headerLine_within (calm : Calm lead) (isPrompt : IsPrompt prompt)
    {before u rest : List Char} (front : s.title.front = []) (hu : HeaderLine u)
    (cut : before ++ (u ++ '\n' :: rest) = s.textBetween lead prompt) :
    (∃ a, a ++ u = s.mainLine ++ ['\r'] ∧
        rest = (s.sourceLine ++ ['\r']) ++ '\n' :: (['\r'] ++ '\n' :: prompt)) ∨
      rest = ['\r'] ++ '\n' :: prompt := by
  have main_free : '\n' ∉ s.mainLine ++ ['\r'] := by simp [no_feed_of_inLine (inLine_mainLine s)]
  have source_free : '\n' ∉ s.sourceLine ++ ['\r'] := by simp [no_feed_sourceLine]
  obtain ⟨c, hc, letter⟩ := hu.starts
  have elsewhere {a t : List Char} (h : a ++ u = t) (absent : ∀ d ∈ ['E', 'M', 'S'], d ∉ t) : False := by
    have inside : c ∈ t := h ▸ List.mem_append_right _ (List.mem_of_mem_head? hc)
    rcases letter with rfl | rfl | rfl <;> exact absent _ (by simp) inside
  rw [textBetween_lines front] at cut
  -- The line begins after the text before the header, which has none of its first letters.
  obtain ⟨a, cut⟩ : ∃ a, a ++ (u ++ '\n' :: rest) = (s.mainLine ++ ['\r']) ++ '\n' ::
      ((s.sourceLine ++ ['\r']) ++ '\n' :: (['\r'] ++ '\n' :: prompt)) := by
    rcases List.append_eq_append_iff.1 cut with ⟨t, rfl, ht⟩ | ⟨a, -, ha⟩
    · cases t with
      | nil => exact ⟨[], ht⟩
      | cons d t =>
        have first := congrArg List.head? ht
        simp only [List.head?_append, hc, Option.some_or, List.cons_append, List.head?_cons,
          Option.some.injEq] at first
        exact absurd (by simp [first]) (calm c (by simpa using letter))
    · exact ⟨a, ha.symm⟩
  rcases Text.piece_cases hu.no_feed main_free cut with ⟨h, rest_eq⟩ | ⟨a, cut⟩
  · exact .inl ⟨a, h, rest_eq⟩
  rcases Text.piece_cases hu.no_feed source_free cut with ⟨-, rest_eq⟩ | ⟨a, cut⟩
  · exact .inr rest_eq
  rcases Text.piece_cases hu.no_feed (by decide) cut with ⟨h, -⟩ | ⟨a, cut⟩
  · exact (elsewhere h (by decide)).elim
  exact absurd (cut ▸ by simp) isPrompt.no_feed

/-- A header in the answer with a method exit is one line, and it ends with the main line or with the
source line. -/
theorem header_within (calm : Calm lead) (isPrompt : IsPrompt prompt) {before w rest : List Char}
    (front : s.title.front = []) (hw : IsHeader w)
    (cut : before ++ (w ++ rest) = s.textBetween lead prompt) :
    ∃ u, w = u ++ ['\n'] ∧ HeaderLine u ∧
      (((∃ a, a ++ w = s.mainLine ++ "\r\n".toList) ∧
          rest = s.sourceLine ++ ("\r\n\r\n".toList ++ prompt)) ∨
        rest = "\r\n".toList ++ prompt) := by
  obtain ⟨main, plain, rfl | ⟨first, -, announced, rfl⟩⟩ := header_cases hw
  · refine ⟨main, rfl, plain, ?_⟩
    rcases headerLine_within calm isPrompt front plain (by simpa using cut) with ⟨a, h, rest_eq⟩ | h
    · refine .inl ⟨⟨a, by simpa using congrArg (· ++ ['\n']) h⟩, ?_⟩
      rw [rest_eq]
      simp
    · exact .inr h
  · -- The second line of such a header would have to be the source line or an empty one.
    have cut : before ++ ((first ++ ['\r']) ++ '\n' :: (main ++ '\n' :: rest)) =
        s.textBetween lead prompt := by
      simpa using cut
    obtain ⟨c, hc, letter⟩ := plain.starts
    rcases headerLine_within calm isPrompt front announced cut with ⟨-, -, h⟩ | h
    · have heads := congrArg List.head? h
      obtain ⟨d, number, digits_eq⟩ := List.exists_cons_of_ne_nil (digits_ne s.listed)
      have digit := isDigit_of_mem_digits (n := s.listed) (c := d) (by simp [digits_eq])
      simp only [List.head?_append, hc, Stop.sourceLine, digits_eq, List.cons_append,
        List.head?_cons, Option.some_or, Option.some.injEq] at heads
      rw [← heads, plain.no_digit c hc] at digit
      simp at digit
    · have heads := congrArg List.head? h
      simp [List.head?_append, hc] at heads
      simp [heads] at letter

-- ---------------------------------------------------------------------------
-- Legible stops
-- ---------------------------------------------------------------------------

/-- The value of an event is the one in the place that is found in the header. -/
theorem returned_ofOutput? {header listing : List Char} {entered : Bool} {event : StepEvent}
    (h : StepEvent.ofOutput? header listing entered = some event) :
    event.returned = ((stepLocation.find? header).bind (·.group? 2)).map Value.read := by
  unfold StepEvent.ofOutput? at h
  split at h
  · simp at h
  · rw [← Option.some.inj h, StepEvent.withListing_returned, StepEvent.withListing_returned,
      StepEvent.ofHeader]
    cases stepLocation.find? header <;> rfl

/-- Without a source line an event has no instruction. -/
theorem instruction_ofOutput? {header listing : List Char} {entered : Bool} {event : StepEvent}
    (h : StepEvent.ofOutput? header listing entered = some event)
    (no_header : sourceListing.find? header = none)
    (no_listing : sourceListing.find? listing = none) : event.instruction = none := by
  unfold StepEvent.ofOutput? at h
  split at h
  · simp at h
  · rw [← Option.some.inj h, StepEvent.withListing, no_listing, StepEvent.withListing, no_header,
      StepEvent.ofHeader]
    cases stepLocation.find? header <;> rfl

/-- An event with an instruction is not the empty one, so it was read. -/
theorem ofOutput?_of_instruction {header listing : List Char} {entered : Bool} {event : StepEvent}
    (h : event = (StepEvent.ofOutput? header listing entered).getD {})
    (shown : event.instruction.isSome = true) :
    StepEvent.ofOutput? header listing entered = some event := by
  cases read : StepEvent.ofOutput? header listing entered with
  | some event' => rw [h, read, Option.getD_some]
  | none => simp [h, read] at shown

/-- Only a method exit has a value. -/
theorem Title.exists_exited {t : Title} {value : String} (h : t.returned? = some value) :
    ∃ nonempty line, t = .exited value nonempty line := by
  cases t with
  | exited v nonempty line =>
    obtain rfl : v = value := by simpa [Title.returned?] using h
    exact ⟨nonempty, line, rfl⟩
  | _ => simp [Title.returned?] at h

/-- There is no source line before a prompt that only an end of a line comes before. -/
theorem find?_sourceListing_before (isPrompt : IsPrompt prompt) {b b' : Buffer}
    {listing : Expectation} (hb : b.pending = "\r\n".toList ++ prompt)
    (h : b.take? Message.prompt = some (listing, b')) :
    sourceListing.find? listing.before.toList = none := by
  have lines : ∀ l ∈ [['\r']], '\n' ∉ l ∧ Unprompted l := by
    intro l hl
    rw [List.mem_singleton.1 hl]
    exact ⟨by decide, unprompted_return⟩
  rw [take?_prompt isPrompt lines hb] at h
  obtain ⟨rfl, -⟩ := Prod.mk.inj (Option.some.inj h)
  rw [String.toList_ofList]
  refine find?_sourceListing_feedLines fun l hl => ?_
  rw [List.mem_singleton.1 hl]
  exact ⟨by decide, isListed_of_start (by simp)⟩

/-- A stop is read as what was printed only if the value that is returned has no comma. -/
theorem plain_of_stop? (calm : Calm lead) (isPrompt : IsPrompt prompt) {b b' : Buffer}
    (hb : b.pending = s.textBetween lead prompt)
    (h : b.stop? = some (s.event, b')) : s.title.Plain := by
  obtain ⟨header, b₁, listing, found, -, prompted, event_eq⟩ := Buffer.stop?_eq_some_iff.1 h
  intro value hv comma
  obtain ⟨nonempty, line, ht⟩ := Title.exists_exited hv
  have read := ofOutput?_of_instruction event_eq rfl
  have is_header : IsHeader header.matched.toList :=
    covers_stepHeader.1 (Buffer.covers_of_take? rfl found)
  have front : s.title.front = [] := by
    rw [ht]
    rfl
  have cut : header.before.toList ++ (header.matched.toList ++ b₁.pending) =
      s.textBetween lead prompt := by
    rw [← hb, Buffer.text_of_take? found, List.append_assoc]
  obtain ⟨u, header_eq, plain, ⟨⟨a, main⟩, -⟩ | rest_eq⟩ :=
    header_within calm isPrompt front is_header cut
  · -- The value would be read from the line of the method exit, where none has the comma.
    have returned : s.event.returned = some (Value.parse value) := by
      simp [Stop.event, ht, Title.returned?]
    rw [returned_ofOutput? read] at returned
    cases hm : stepLocation.find? header.matched.toList with
    | none => simp [hm] at returned
    | some m =>
      rw [hm, Option.bind_some] at returned
      exact returned_ne ht comma main hm returned
  · -- The header would end with the source line, and no other one is left for the event.
    have one_line : header.matched.toList = feedLines [u] := by simp [header_eq, feedLines]
    have no_header : sourceListing.find? header.matched.toList = none := by
      rw [one_line]
      exact find?_sourceListing_headerLines fun l hl => List.mem_singleton.1 hl ▸ plain
    have nothing := instruction_ofOutput? read no_header
      (find?_sourceListing_before isPrompt rest_eq prompted)
    simp [Stop.event] at nothing

/-- A stop that is read as what was printed was legible. -/
theorem legible_of_stop? (calm : Calm lead) (isPrompt : IsPrompt prompt) {b b' : Buffer}
    (hb : b.pending = s.textBetween lead prompt)
    (h : b.stop? = some (s.event, b')) : s.Legible := by
  have plain := plain_of_stop? calm isPrompt hb h
  obtain ⟨header, b₁, listing, found, accepted, prompted, event_eq⟩ := Buffer.stop?_eq_some_iff.1 h
  rw [take?_header calm plain.spaced hb] at found
  obtain ⟨rfl, rfl⟩ := Prod.mk.inj (Option.some.inj found)
  simp only [String.toList_ofList] at accepted event_eq
  have unexceptional : ¬ exceptionMarker.toList <:+: s.header := by
    intro within
    simp [Session.isStop, StepEvent.ofHeader?, StepEvent.ofOutput?, Text.occursIn_iff.2 within]
      at accepted
  refine ⟨plain, unexceptional, fun ht within => ?_⟩
  obtain ⟨m, hm, two, -⟩ := find?_stepLocation s plain
  have valueless : m.group? 2 = none := by
    rw [two, ht]
    rfl
  have kind := congrArg StepEvent.kind event_eq
  simp [StepEvent.ofOutput?, occursIn_eq_false unexceptional, StepEvent.ofHeader, hm, valueless,
    Text.occursIn_iff.2 within, Stop.event, ht, Title.kind] at kind

end Retrace.Printed
