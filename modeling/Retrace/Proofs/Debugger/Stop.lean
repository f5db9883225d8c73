import Retrace.Proofs.Debugger.SourceLine
import Retrace.Session.Step

/-!
# Reading a stop

The header of a stop is found in the answer to a step, and header and source line
are read as the event that was printed. Three things can go wrong: a value that
is returned has a comma, a header contains the announcement of an exception, or
the header of a plain step contains that of a method entry.
-/

namespace Retrace

open Message Retrace.Expr

namespace Printed

variable (s : Stop)

-- ---------------------------------------------------------------------------
-- Headers
-- ---------------------------------------------------------------------------

/-- The place in a header: the thread, class and method, and the two numbers. -/
def Stop.place : List Char :=
  "\"thread=".toList ++ (s.thread.toList ++ ("\", ".toList ++ (s.label.toList ++
    (", line=".toList ++ (Stop.digits s.line ++ (" bci=".toList ++ Stop.digits s.bci))))))

theorem place_eq :
    s.place = "\"thread=".toList ++ (s.thread.toList ++ ("\", ".toList ++ (s.label.toList ++
      (", line=".toList ++ (Stop.digits s.line ++ (" bci=".toList ++ Stop.digits s.bci)))))) :=
  rfl

/-- The line of the header that has the place, without its ending. -/
def Stop.mainLine : List Char :=
  s.title.head ++ ' ' :: s.place

theorem header_mainLine : s.header = s.title.front ++ (s.mainLine ++ "\r\n".toList) := by
  have blank : " \"thread=".toList = ' ' :: "\"thread=".toList := by decide
  change s.title.front ++ (s.title.head ++ (" \"thread=".toList ++ (s.thread.toList ++ ("\", ".toList ++
    (s.label.toList ++ (", line=".toList ++ (Stop.digits s.line ++ (" bci=".toList ++
      (Stop.digits s.bci ++ "\r\n".toList))))))))) = s.title.front ++ ((s.title.head ++ ' ' ::
    ("\"thread=".toList ++ (s.thread.toList ++ ("\", ".toList ++ (s.label.toList ++
      (", line=".toList ++ (Stop.digits s.line ++ (" bci=".toList ++ Stop.digits s.bci))))))))
    ++ "\r\n".toList)
  rw [blank]
  generalize "\"thread=".toList = t, "\", ".toList = u, ", line=".toList = v, " bci=".toList = w,
    "\r\n".toList = ending
  simp only [List.append_assoc, List.cons_append]

theorem mem_of_but {cs ds : List Char} {t : List Char} (h : ∀ c ∈ t, but cs c = true)
    (fewer : ∀ c ∈ ds, c ∈ cs) : ∀ c ∈ t, but ds c = true := by
  intro c hc
  have := h c hc
  simp only [but, Bool.not_eq_true', List.contains_eq_mem, decide_eq_false_iff_not] at this ⊢
  exact fun hd => this (fewer c hd)

theorem inLine_label : ∀ c ∈ s.label.toList, inLine c = true := by
  intro c hc
  rw [label_toList] at hc
  simp only [List.mem_append, List.mem_cons] at hc
  rcases hc with (hc | rfl | hc) | hc
  · exact mem_of_but s.class_free (by decide) c hc
  · decide
  · exact mem_of_but s.method_free (by decide) c hc
  · exact (by decide : ∀ c ∈ "()".toList, inLine c = true) c hc

theorem inLine_digits (n : UInt32) : ∀ c ∈ Stop.digits n, inLine c = true := by
  intro c hc
  have digit := isDigit_of_mem_digits hc
  simp only [inLine, but, Bool.not_eq_true', List.contains_eq_mem, decide_eq_false_iff_not]
  intro h
  simp only [List.mem_cons, List.not_mem_nil, or_false] at h
  rcases h with rfl | rfl <;> simp at digit

theorem inLine_place : ∀ c ∈ s.place, inLine c = true := by
  have fixed (t : String) (h : t ∈ ["\"thread=", "\", ", ", line=", " bci="]) :
      ∀ c ∈ t.toList, inLine c = true := by
    revert t
    decide
  intro c hc
  rw [place_eq] at hc
  simp only [List.mem_append] at hc
  rcases hc with hc | hc | hc | hc | hc | hc | hc | hc
  · exact fixed _ (by simp) c hc
  · exact mem_of_but s.thread_free (by decide) c hc
  · exact fixed _ (by simp) c hc
  · exact inLine_label s c hc
  · exact fixed _ (by simp) c hc
  · exact inLine_digits _ c hc
  · exact fixed _ (by simp) c hc
  · exact inLine_digits _ c hc

/-- The announcement of a method entry on a line of its own. -/
def Title.frontLines : Title → List (List Char)
  | .enteredBefore blank => ["Method entered:".toList ++ ((if blank then " ".toList else []) ++ ['\r'])]
  | _ => []

theorem front_eq (t : Title) : t.front = feedLines t.frontLines := by
  cases t with
  | enteredBefore blank => cases blank <;> decide
  | completed => rfl
  | entered => rfl
  | exited => rfl

theorem inLine_head (t : Title) : ∀ c ∈ t.head, inLine c = true := by
  cases t with
  | completed => decide
  | enteredBefore blank => cases blank <;> decide
  | entered => decide
  | exited value nonempty line =>
    intro c hc
    rw [Title.head_exited] at hc
    simp only [List.mem_append] at hc
    rcases hc with hc | hc | hc
    · exact (by decide : ∀ c ∈ "Method exited: return value = ".toList, inLine c = true) c hc
    · exact line c hc
    · exact (by decide : ∀ c ∈ ",".toList, inLine c = true) c hc

/-- Titles start with a letter. -/
theorem head?_head (t : Title) : ∃ c, t.head.head? = some c ∧ (c = 'S' ∨ c = 'M') := by
  cases t with
  | completed => exact ⟨'S', by decide, .inl rfl⟩
  | enteredBefore blank => exact ⟨'S', by cases blank <;> decide, .inl rfl⟩
  | entered => exact ⟨'M', by decide, .inr rfl⟩
  | exited value nonempty line => exact ⟨'M', by simp, .inr rfl⟩

theorem inLine_mainLine : ∀ c ∈ s.mainLine, inLine c = true := by
  intro c hc
  simp only [Stop.mainLine, List.mem_append, List.mem_cons] at hc
  rcases hc with hc | rfl | hc
  · exact inLine_head _ c hc
  · decide
  · exact inLine_place s c hc

theorem no_feed_of_inLine {t : List Char} (h : ∀ c ∈ t, inLine c = true) : '\n' ∉ t := fun hc =>
  absurd (h _ hc) (by decide)

/-- A line of a header: it has no line feed, and it starts with a letter. -/
structure HeaderLine (line : List Char) : Prop where
  no_feed : '\n' ∉ line
  starts : ∃ c, line.head? = some c ∧ (c = 'E' ∨ c = 'M' ∨ c = 'S')

theorem HeaderLine.no_digit {line : List Char} (h : HeaderLine line) :
    ∀ c, line.head? = some c → c.isDigit = false := by
  obtain ⟨c, hc, letter⟩ := h.starts
  rintro d hd
  obtain rfl := Option.some.inj (hc.symm.trans hd)
  rcases letter with rfl | rfl | rfl <;> decide

theorem headerLine_of_title {t : Title} {rest : List Char} (free : '\n' ∉ rest) :
    HeaderLine (t.head ++ rest) where
  no_feed := by simp [no_feed_of_inLine (inLine_head t), free]
  starts := by
    obtain ⟨c, hc, letter⟩ := head?_head t
    exact ⟨c, by simp [List.head?_append, hc], by rcases letter with rfl | rfl <;> simp⟩

/-- No line of a header shows a line of source. -/
theorem find?_sourceListing_headerLines {lines : List (List Char)} (h : ∀ l ∈ lines, HeaderLine l) :
    sourceListing.find? (feedLines lines) = none :=
  find?_sourceListing_feedLines fun l hl => ⟨(h l hl).no_feed, isListed_of_start (h l hl).no_digit⟩

theorem header_lines :
    ∃ lines, s.header = feedLines lines ∧ ∀ l ∈ lines, HeaderLine l := by
  refine ⟨s.title.frontLines ++ [s.mainLine ++ ['\r']], ?_, ?_⟩
  · rw [header_mainLine, front_eq]
    have ending : "\r\n".toList = ['\r', '\n'] := by decide
    simp [feedLines, ending]
  · intro l hl
    rcases List.mem_append.1 hl with hl | hl
    · cases ht : s.title with
      | enteredBefore blank =>
        rw [ht] at hl
        obtain rfl := List.mem_singleton.1 hl
        refine ⟨by cases blank <;> decide, 'M', by simp, by simp⟩
      | _ => simp [ht, Title.frontLines] at hl
    · obtain rfl := List.mem_singleton.1 hl
      have free := no_feed_of_inLine (inLine_place s)
      rw [Stop.mainLine, List.append_assoc]
      exact headerLine_of_title (by simp [free])

/-- A header has no source line. -/
theorem find?_sourceListing_header : sourceListing.find? s.header = none := by
  obtain ⟨lines, header_eq, plain⟩ := header_lines s
  rw [header_eq]
  exact find?_sourceListing_headerLines plain

-- ---------------------------------------------------------------------------
-- Events
-- ---------------------------------------------------------------------------

/-- The answer to a step can be read: no text in the header looks like something else. -/
structure Stop.Legible : Prop where
  plain : s.title.Plain
  unexceptional : ¬ exceptionMarker.toList <:+: s.header
  unentered : s.title = .completed → ¬ methodEnteredMarker.toList <:+: s.header

/-- The header of a method entry says so. -/
theorem infix_entered (h : s.title.kind = .methodEntry) :
    methodEnteredMarker.toList <:+: s.header := by
  rw [header_mainLine, Stop.mainLine]
  cases ht : s.title with
  | enteredBefore blank =>
    have front : methodEnteredMarker.toList <+: (Title.enteredBefore blank).front := by
      cases blank <;> decide
    exact (front.trans (List.prefix_append ..)).isInfix
  | entered =>
    have head : Title.entered.head = methodEnteredMarker.toList := by decide
    rw [head, List.append_assoc]
    exact List.infix_append [] _ _
  | completed => simp [ht, Title.kind] at h
  | exited => simp [ht, Title.kind] at h

variable {s}

theorem occursIn_eq_false {needle t : List Char} (h : ¬ needle <:+: t) :
    Text.occursIn needle t = false := by
  simpa [← Text.occursIn_iff] using h

/-- The header is read as the event, but for the source line. -/
theorem ofHeader_header (h : s.Legible) :
    StepEvent.ofHeader s.header false =
      { s.event with line := some s.line.toNat, instruction := none } := by
  obtain ⟨m, hm, two, three, four, five, six, seven⟩ := find?_stepLocation s h.plain
  have method_start : ('.' :: s.method.toList).dropWhile (· = '.') = s.method.toList :=
    dropWhile_method (notMem_of_but s.method_free (by decide))
  have kind : (if (s.title.returned?.map Value.parse).isSome then StepKind.methodExit
      else if Text.occursIn methodEnteredMarker.toList s.header then .methodEntry else .step) =
      s.title.kind := by
    cases ht : s.title with
    | completed => simp [Title.returned?, Title.kind, occursIn_eq_false (h.unentered ht)]
    | enteredBefore blank =>
      have := Text.occursIn_iff.2 (infix_entered s (by simp [ht, Title.kind]))
      simp [Title.returned?, Title.kind, this]
    | entered =>
      have := Text.occursIn_iff.2 (infix_entered s (by simp [ht, Title.kind]))
      simp [Title.returned?, Title.kind, this]
    | exited value nonempty line => simp [Title.returned?, Title.kind]
  have returned : (m.group? 2).map Value.read = s.title.returned?.map Value.parse := by
    rw [two, Option.map_map]
    rfl
  simp only [StepEvent.ofHeader, hm, returned, three, four, five, six, seven, Stop.event,
    Option.map_some, Option.bind_some, number?_digits, Bool.false_or, kind, method_start,
    String.ofList_toList]

/-- Header and source line are read as the event. -/
theorem ofOutput?_text (h : s.Legible) {rest : List Char}
    (ends : ∀ c, rest.head? = some c → inLine c = false) :
    StepEvent.ofOutput? s.header (s.sourceLine ++ rest) false = some s.event := by
  obtain ⟨m, hm, number, source⟩ := find?_sourceListing s ends
  simp only [StepEvent.ofOutput?, occursIn_eq_false h.unexceptional, StepEvent.withListing,
    find?_sourceListing_header, ofHeader_header h, hm, number, source, Option.map_some,
    Option.bind_some, number?_digits, Option.some_or, String.ofList_toList, Bool.false_eq_true,
    if_false]
  rfl

/-- A header is one of a stop if the value that is returned has no comma, and no exception is
announced. -/
theorem isStop_header (plain : s.title.Plain) (unexceptional : ¬ exceptionMarker.toList <:+: s.header) :
    Session.isStop s.header = true := by
  obtain ⟨m, hm, -, -, label, -⟩ := find?_stepLocation s plain
  simp [Session.isStop, StepEvent.ofHeader?, StepEvent.ofOutput?, occursIn_eq_false unexceptional,
    StepEvent.withListing, find?_sourceListing_header, find?_sourceListing_nil, StepEvent.ofHeader,
    hm, label, StepEvent.isEmpty]

-- ---------------------------------------------------------------------------
-- Finding the header
-- ---------------------------------------------------------------------------

/-- The first comma after the title of a method exit, if it has one, is followed by a blank. -/
def Title.Spaced (t : Title) : Prop :=
  ∀ value, t.returned? = some value →
    ∃ u v, value.toList ++ ", ".toList = u ++ ", ".toList ++ v ∧ ',' ∉ u

theorem Title.Plain.spaced {t : Title} (h : t.Plain) : t.Spaced := fun value hv =>
  ⟨value.toList, [], by simp, h value hv⟩

theorem place_ne_nil : s.place ≠ [] := by
  rw [place_eq]
  simp

/-- The header of a method exit fits the pattern for headers: the title there ends with the first
comma, and what is left of the value belongs to the line. -/
theorem isHeader_exited {value : String} {nonempty : value ≠ ""}
    {line : ∀ c ∈ value.toList, inLine c = true} (ht : s.title = .exited value nonempty line)
    (h : s.title.Spaced) : IsHeader s.header := by
  obtain ⟨u, v, value_eq, free⟩ := h value (by simp [ht, Title.returned?])
  have inside : ∀ c ∈ u ++ ", ".toList ++ v, inLine c = true := by
    rw [← value_eq]
    intro c hc
    rcases List.mem_append.1 hc with hc | hc
    · exact line c hc
    · exact (by decide : ∀ c ∈ ", ".toList, inLine c = true) c hc
  have title_free : ∀ c ∈ "return value = ".toList ++ u, but [',', '\r', '\n'] c = true := by
    intro c hc
    rcases List.mem_append.1 hc with hc | hc
    · exact (by decide : ∀ c ∈ "return value = ".toList, but [',', '\r', '\n'] c = true) c hc
    · have := inside c (by simp [hc])
      have : c ≠ ',' := fun h => free (h ▸ hc)
      simp_all [inLine, but]
  have line_free : ∀ c ∈ v ++ s.place, inLine c = true := by
    intro c hc
    rcases List.mem_append.1 hc with hc | hc
    · exact inside c (by simp [hc])
    · exact inLine_place s c hc
  refine ⟨_, v ++ s.place, ?_, .exited _ (by simp) title_free, by simp [place_ne_nil], line_free⟩
  have front : (Title.exited value nonempty line).front = [] := rfl
  have fixed : "Method exited: return value = ".toList =
    "Method exited: ".toList ++ "return value = ".toList := by decide
  have tail : value.toList ++ (",".toList ++ (' ' :: s.place ++ "\r\n".toList)) =
      u ++ (", ".toList ++ (v ++ (s.place ++ "\r\n".toList))) := by
    simpa using congrArg (· ++ (s.place ++ "\r\n".toList)) value_eq
  rw [header_mainLine, Stop.mainLine, ht, front, Title.head_exited, fixed]
  simp only [List.append_assoc, List.nil_append, tail]

/-- The header fits the pattern for headers. -/
theorem isHeader_header (h : s.title.Spaced) : IsHeader s.header := by
  have place := inLine_place s
  have header := header_mainLine s
  rw [Stop.mainLine] at header
  cases ht : s.title with
  | completed =>
    rw [header, ht]
    exact ⟨_, ' ' :: s.place, rfl, .completed, by simp, List.forall_mem_cons.2 ⟨by decide, place⟩⟩
  | enteredBefore blank =>
    rw [header, ht]
    refine ⟨_, ' ' :: s.place, ?_,
      .enteredBefore (if blank then " ".toList else []) (by cases blank <;> simp), by simp,
      List.forall_mem_cons.2 ⟨by decide, place⟩⟩
    have lines : (Title.enteredBefore blank).front ++ (Title.enteredBefore blank).head =
        "Method entered:".toList ++ (if blank then " ".toList else []) ++
          "\r\nStep completed:".toList := by
      cases blank <;> decide
    rw [← lines]
    simp only [List.append_assoc]
  | entered =>
    rw [header, ht]
    refine ⟨_, s.place, ?_, .entered, place_ne_nil, place⟩
    have head : "Method entered: ".toList = Title.entered.head ++ [' '] := by decide
    have front : Title.entered.front = [] := rfl
    rw [head, front]
    generalize Title.entered.head = title
    simp
  | exited value nonempty line => exact isHeader_exited ht h

theorem starts_of_isHeader {w : List Char} (h : IsHeader w) :
    ∃ c, w.head? = some c ∧ (c = 'E' ∨ c = 'M' ∨ c = 'S') := by
  obtain ⟨title, line, rfl, ht, -⟩ := h
  cases ht with
  | exception => exact ⟨'E', by simp, by simp⟩
  | enteredBefore blank hb => exact ⟨'M', by simp, by simp⟩
  | completed => exact ⟨'S', by simp, by simp⟩
  | entered => exact ⟨'M', by simp, by simp⟩
  | exited v nonempty free => exact ⟨'M', by simp, by simp⟩

/-- A header is one line, or the announcement of a method entry on a line of its own is above it. -/
theorem header_cases {w : List Char} (h : IsHeader w) :
    ∃ main, HeaderLine main ∧ (w = main ++ ['\n'] ∨ ∃ first, IsAnnouncement first ∧
      HeaderLine (first ++ ['\r']) ∧ w = (first ++ ['\r']) ++ '\n' :: (main ++ ['\n'])) := by
  obtain ⟨c, hc, letter⟩ := starts_of_isHeader h
  obtain ⟨title, line, rfl, ht, -, hl⟩ := h
  have free : '\n' ∉ line := no_feed_of_inLine hl
  rcases ht.lines with one | ⟨first, hf, rfl⟩
  · have whole : title ++ line ++ "\r\n".toList = (title ++ line ++ ['\r']) ++ ['\n'] := by simp
    rw [whole, List.head?_append_of_ne_nil _ (by simp)] at hc
    exact ⟨title ++ line ++ ['\r'], ⟨by simp [one, free], c, hc, letter⟩, .inl whole⟩
  · have announced : HeaderLine (first ++ ['\r']) := by
      refine ⟨by simp [hf.no_feed], 'M', ?_, by simp⟩
      obtain ⟨blank, -, rfl⟩ := hf
      simp
    exact ⟨"Step completed:".toList ++ line ++ ['\r'], ⟨by simp [free], 'S', by simp, by simp⟩,
      .inr ⟨first, hf, announced, by simp⟩⟩

/-- No header begins in a text that has none of the letters that headers begin with. -/
def Calm (lead : List Char) : Prop :=
  ∀ c ∈ ['E', 'M', 'S'], c ∉ lead

instance (lead : List Char) : Decidable (Calm lead) :=
  inferInstanceAs (Decidable (∀ c ∈ ['E', 'M', 'S'], c ∉ lead))

theorem calm_lead : Calm "> \r\n".toList := by
  decide

/-- An answer to a step: the header behind some other text, the source line, and any prompt. -/
def Stop.textBetween (s : Stop) (lead prompt : List Char) : List Char :=
  lead ++ (s.header ++ (s.sourceLine ++ ("\r\n\r\n".toList ++ prompt)))

theorem text_eq (s : Stop) : s.text = s.textBetween "> \r\n".toList prompt := rfl

variable {lead : List Char}

theorem Calm.misses (calm : Calm lead) (rest : List Char) :
    stepHeader.expr.Misses none lead rest := by
  intro a c b h
  refine List.eq_nil_iff_forall_not_mem.2 fun x hx => ?_
  obtain ⟨d, hd, letter⟩ := starts_of_isHeader (covers_stepHeader.1 (covers_of_mem_ways rfl hx))
  obtain rfl : c = d := by
    have first := congrArg List.head? (ways_append hx)
    rw [List.head?_append, hd] at first
    simpa using first.symm
  have inside : c ∈ lead := by simp [h]
  exact calm c (by simpa using letter) inside

/-- The first header is found. -/
theorem take?_of_isHeader (calm : Calm lead) {w rest : List Char} (h : IsHeader w) {b : Buffer}
    (hb : b.pending = lead ++ (w ++ rest)) :
    b.take? stepHeader = some (⟨.ofList lead, .ofList w⟩, { b with pending := rest }) := by
  obtain ⟨x, first, x_text, x_rest⟩ :=
    stepHeader_settled.first_of_covers rfl (covers_stepHeader.2 h) rest
  have picks : stepHeader.expr.Picks b.pending lead x := by
    refine ⟨by rw [hb, x_text, x_rest], ?_, calm.misses _⟩
    rw [x_text, x_rest]
    exact first
  rw [Buffer.take?_of_picks picks, x_text, x_rest]

/-- The header is found in the answer to a step. -/
theorem take?_header (calm : Calm lead) (h : s.title.Spaced) {prompt : List Char} {b : Buffer}
    (hb : b.pending = s.textBetween lead prompt) :
    b.take? stepHeader = some (⟨.ofList lead, .ofList s.header⟩,
      { b with pending := s.sourceLine ++ ("\r\n\r\n".toList ++ prompt) }) :=
  take?_of_isHeader calm (isHeader_header h) hb

/-- A header of an exception is none of a stop. -/
theorem isStop_exception (t : List Char) :
    Session.isStop (exceptionMarker.toList ++ t) = false := by
  have marked : Text.occursIn exceptionMarker.toList (exceptionMarker.toList ++ t) = true :=
    Text.occursIn_iff.2 (List.prefix_append _ t).isInfix
  simp [Session.isStop, StepEvent.ofHeader?, StepEvent.ofOutput?, marked]

end Printed

end Retrace
