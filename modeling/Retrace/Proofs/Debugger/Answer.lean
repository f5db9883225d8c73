import Retrace.Proofs.Debugger.Assignment
import Retrace.Proofs.Session.Frame

/-!
# Answers to a request for variables

The debugger lists the variables, or says that there are none or that it does
not know them. The answer is read as what it says and taken whole, if no value of
an argument contains the header of the other variables. What waited before it
makes no difference as long as there is no answer in it.
-/

namespace Retrace.Printed

open Message Retrace.Expr

-- ---------------------------------------------------------------------------
-- Texts of answers
-- ---------------------------------------------------------------------------

/-- The phrase of an answer that there is no information. -/
def unavailable : List Char :=
  "ocal variable information not available".toList

/-- The forms of an answer. -/
inductive LocalsAnswer where
  /-- The arguments and the other variables. -/
  | listed (arguments locals : List Assignment)
  | nothing
  /-- Nothing is known; a note may follow on the line. -/
  | unknown (note : List Char) (line : ∀ c ∈ note, inLine c = true)

/-- The lines of variables, with their endings. -/
def assigned (assignments : List Assignment) : List Char :=
  assignments.flatMap fun a => a.line ++ "\r\n".toList

namespace LocalsAnswer

/-- The answer up to the end of its first line. -/
def phrase : LocalsAnswer → List Char
  | listed _ _ => methodArgumentsHeader.toList
  | nothing => "No local variables".toList
  | unknown note _ => 'L' :: (unavailable ++ note)

/-- What follows the phrase, up to the prompt. -/
def body : LocalsAnswer → List Char
  | listed arguments locals =>
    "\r\n".toList ++ assigned arguments ++ localsHeader ++ ("\r\n".toList ++ assigned locals)
  | _ => "\r\n".toList

/-- The answer with the prompt after it. -/
def text (a : LocalsAnswer) (prompt : List Char) : List Char :=
  a.phrase ++ (a.body ++ prompt)

/-- The frame that the answer stands for. -/
def frame : LocalsAnswer → Retrace.Frame
  | listed arguments locals =>
    { arguments := .ofList (arguments.map Assignment.entry)
      locals := .ofList (locals.map Assignment.entry) }
  | _ => {}

/-- The first header of other variables is the one between the arguments and these. -/
def Divided : LocalsAnswer → Prop
  | listed arguments _ => ∀ a ∈ arguments, ¬ localsHeader <:+: a.value.toList
  | _ => True

instance (a : LocalsAnswer) : Decidable a.Divided :=
  match a with
  | listed arguments _ =>
    inferInstanceAs (Decidable (∀ a ∈ arguments, ¬ localsHeader <:+: a.value.toList))
  | nothing | unknown _ _ => .isTrue trivial

end LocalsAnswer

theorem assigned_eq (assignments : List Assignment) :
    "\r\n".toList ++ assigned assignments = feedLines (assignedLines assignments) := by
  simp [assigned, feedLines, assignedLines, List.flatMap_map]

-- ---------------------------------------------------------------------------
-- Where an answer can start
-- ---------------------------------------------------------------------------

theorem localsAnswer_covers {previous : Option Char} {w : List Char} :
    localsAnswer.expr.Covers previous w ↔
      (∃ v, w = "No local variables".toList ++ v ∧ ∀ c ∈ v, inLine c = true) ∨
      (∃ u v, w = (u ++ unavailable) ++ v ∧ (∀ c ∈ u, inLine c = true) ∧ ∀ c ∈ v, inLine c = true) ∨
      w = methodArgumentsHeader.toList := by
  simp only [localsAnswer, firstOf, covers_group, covers_alt, covers_seq, covers_lit]
  constructor
  · rintro (⟨_, v, rfl, rfl, hv⟩ | ⟨_, v, rfl, ⟨u, _, rfl, hu, rfl⟩, hv⟩ | rfl)
    · exact .inl ⟨v, rfl, hv⟩
    · exact .inr (.inl ⟨u, v, rfl, hu, hv⟩)
    · exact .inr (.inr rfl)
  · rintro (⟨v, rfl, hv⟩ | ⟨u, v, rfl, hu, hv⟩ | rfl)
    · exact .inl ⟨_, v, rfl, rfl, hv⟩
    · exact .inr (.inl ⟨_, v, rfl, ⟨u, _, rfl, hu, rfl⟩, hv⟩)
    · exact .inr (.inr rfl)

/-- A phrase ends before the start of an answer unless a piece of it can start there. -/
theorem ends_before {phrase front start rest tail : List Char} (letter : Char)
    (line : ∀ c ∈ phrase, inLine c = true) (first : start.head? = some letter)
    (starts : ∀ t, phrase = front ++ t → t.length ≤ start.length → t.head? ≠ some letter)
    (h : phrase ++ tail = front ++ (start ++ '\r' :: rest)) :
    ∃ v, front = phrase ++ v := by
  rcases List.append_eq_append_iff.1 h with ⟨t, ht, -⟩ | ⟨t, rfl, ht⟩
  · exact ⟨t, ht⟩
  · have t_line : '\r' ∉ t := fun hr => absurd (line _ (List.mem_append_right _ hr)) (by decide)
    have within : t <+: start := Text.prefix_of_notMem t_line ht.symm
    cases t with
    | nil => exact ⟨[], by simp⟩
    | cons d t =>
      refine absurd ?_ (starts _ rfl within.length_le)
      obtain ⟨u, hu⟩ := within
      rw [← hu] at first
      simpa using first

/-- What ends with the phrase has no short ending that starts with another letter. -/
theorem head?_ne_of_unavailable {u front t : List Char} {letter : Char}
    (h : u ++ unavailable = front ++ t) (short : t.length < unavailable.length)
    (free : letter ∉ unavailable) : t.head? ≠ some letter := by
  have ending : t <:+ unavailable :=
    List.suffix_of_suffix_length_le (h ▸ List.suffix_append front t)
      (List.suffix_append u unavailable) (Nat.le_of_lt short)
  exact fun letter_t => free (ending.subset (List.mem_of_mem_head? letter_t))

theorem inLine_append_unavailable {u : List Char} (hu : ∀ c ∈ u, inLine c = true) :
    ∀ c ∈ u ++ unavailable, inLine c = true := by
  have fixed : ∀ c ∈ unavailable, inLine c = true := by decide
  exact fun c hc => (List.mem_append.1 hc).elim (hu c) (fixed c)

/-- A phrase that opens an answer: it is short, and its first letter stands in none of the phrases
that are looked for, save at their start. -/
structure Opens (start : List Char) (letter : Char) : Prop where
  first : start.head? = some letter
  short : start.length < unavailable.length
  not_none : letter ∉ "No local variables".toList.tail
  not_unavailable : letter ∉ unavailable
  not_arguments : letter ∉ methodArgumentsHeader.toList.tail

/-- A text without an answer has none up to the phrase that follows it. -/
theorem misses_answer {stale start : List Char} {letter : Char}
    (quiet : localsAnswer.find? stale = none) (opens : Opens start letter) (rest : List Char) :
    localsAnswer.expr.Misses none stale (start ++ '\r' :: rest) := by
  have absent := (find?_eq_none_iff_covers (p := localsAnswer) rfl).1 quiet
  -- A fixed phrase would go on with the first letter of the other one.
  have fixed : ∀ {w a t z : List Char} {c : Char}, (∀ c ∈ w, inLine c = true) → letter ∉ w.tail →
      stale = a ++ c :: t → w ++ z = (c :: t) ++ (start ++ '\r' :: rest) →
      ∃ z, stale = a ++ w ++ z := by
    intro w a t z c line free cut whole
    obtain ⟨z, hz⟩ := ends_before _ line opens.first (fun s hs _ first => by
      rw [hs] at free
      exact free (List.mem_append_right _ (List.mem_of_mem_head? first))) whole
    exact ⟨z, by rw [cut, hz, List.append_assoc]⟩
  intro a c t cut
  refine List.eq_nil_iff_forall_not_mem.2 fun x hx => ?_
  have whole : x.text ++ x.rest = (c :: t) ++ (start ++ '\r' :: rest) := ways_append hx
  rcases localsAnswer_covers.1 (covers_of_mem_ways rfl hx) with
    ⟨v, hw, -⟩ | ⟨u, v, hw, hu, -⟩ | hw
  · rw [hw, List.append_assoc] at whole
    obtain ⟨z, hz⟩ := fixed (by decide) opens.not_none cut whole
    exact absent a _ z hz (localsAnswer_covers.2 (.inl ⟨[], by simp, by simp⟩))
  · rw [hw, List.append_assoc (u ++ unavailable)] at whole
    obtain ⟨z, hz⟩ := ends_before _ (inLine_append_unavailable hu) opens.first
      (fun s hs short => head?_ne_of_unavailable hs (Nat.lt_of_le_of_lt short opens.short)
        opens.not_unavailable) whole
    refine absent a (u ++ unavailable) z (by rw [cut, hz, ← List.append_assoc]) ?_
    exact localsAnswer_covers.2 (.inr (.inl ⟨u, [], by simp, hu, by simp⟩))
  · rw [hw] at whole
    obtain ⟨z, hz⟩ := fixed (by decide) opens.not_arguments cut whole
    exact absent a _ z hz (localsAnswer_covers.2 (.inr (.inr rfl)))

-- ---------------------------------------------------------------------------
-- The first phrase
-- ---------------------------------------------------------------------------

/-- The arguments start an answer. -/
theorem first?_arguments (rest : List Char) (previous : Option Char) :
    ∃ x, localsAnswer.expr.first? previous (methodArgumentsHeader.toList ++ '\r' :: rest) = some x ∧
      x.text = methodArgumentsHeader.toList ∧ x.rest = '\r' :: rest := by
  refine ⟨_, first?_group 1 ((first?_alt_right ?_).trans ((first?_alt_right ?_).trans
    (first?_lit "Method arguments:" previous ('\r' :: rest)))), rfl, rfl⟩
  · refine ways_lit_seq_eq_nil fun h => ?_
    rcases List.prefix_or_prefix_of_prefix h (List.prefix_append ..) with h | h
    · exact absurd h (by decide +kernel)
    · exact absurd h (by decide +kernel)
  · refine List.eq_nil_iff_forall_not_mem.2 fun x hx => ?_
    have covered := covers_of_mem_ways rfl hx
    simp only [covers_seq, covers_lit] at covered
    obtain ⟨_, v, hw, ⟨u, _, rfl, hu, rfl⟩, -⟩ := covered
    have whole : (u ++ unavailable) ++ (v ++ x.rest) =
        [] ++ (methodArgumentsHeader.toList ++ '\r' :: rest) := by
      rw [← List.append_assoc, show u ++ unavailable ++ v = x.text from hw.symm]
      exact ways_append hx
    obtain ⟨z, hz⟩ := ends_before 'M' (inLine_append_unavailable hu) (by decide)
      (fun s hs short => head?_ne_of_unavailable hs (Nat.lt_of_le_of_lt short (by decide))
        (by decide)) whole
    have nonempty : unavailable ≠ [] := by decide
    simp [nonempty] at hz

/-- That there are no variables is an answer. -/
theorem first?_nothing (rest : List Char) (previous : Option Char) :
    ∃ x, localsAnswer.expr.first? previous ("No local variables".toList ++ '\r' :: rest) = some x ∧
      x.text = "No local variables".toList ∧ x.rest = '\r' :: rest := by
  have none_more : (many inLine).first? (lastOf previous "No local variables".toList)
      ([] ++ '\r' :: rest) = some ⟨[], '\r' :: rest, []⟩ :=
    first?_many _ (by simp) (by simp [inLine, but])
  exact ⟨_, first?_group 1 (first?_alt_left (first?_seq
    (first?_lit "No local variables" previous ('\r' :: rest)) none_more)), rfl, rfl⟩

/-- A phrase at the start of what was not taken is found there. -/
theorem take?_phrase {stale start rest : List Char} {letter : Char}
    (quiet : localsAnswer.find? stale = none) (opens : Opens start letter)
    (first : ∀ previous, ∃ x, localsAnswer.expr.first? previous (start ++ '\r' :: rest) = some x ∧
      x.text = start ∧ x.rest = '\r' :: rest)
    {b : Buffer} (hb : b.pending = stale ++ (start ++ '\r' :: rest)) :
    b.take? localsAnswer =
      some (⟨.ofList stale, .ofList start⟩, { b with pending := '\r' :: rest }) := by
  obtain ⟨x, first, text_eq, rest_eq⟩ := first stale.getLast?
  have picks : localsAnswer.expr.Picks b.pending stale x := by
    refine ⟨by rw [hb, text_eq, rest_eq], ?_, ?_⟩ <;> rw [text_eq, rest_eq]
    · exact first
    · exact misses_answer quiet opens rest
  rw [Buffer.take?_of_picks picks, text_eq, rest_eq]

-- ---------------------------------------------------------------------------
-- An answer that takes its line
-- ---------------------------------------------------------------------------

theorem inLine_of_covers {previous : Option Char} {w : List Char}
    (h : localsAnswer.expr.Covers previous w) : ∀ c ∈ w, inLine c = true := by
  have fixed : (∀ c ∈ "No local variables".toList, inLine c = true) ∧
      ∀ c ∈ methodArgumentsHeader.toList, inLine c = true := by decide
  rcases localsAnswer_covers.1 h with ⟨v, rfl, hv⟩ | ⟨u, v, rfl, hu, hv⟩ | rfl
  · exact fun c hc => (List.mem_append.1 hc).elim (fixed.1 c) (hv c)
  · exact fun c hc => (List.mem_append.1 hc).elim (inLine_append_unavailable hu c) (hv c)
  · exact fixed.2

/-- A text ends with a line that is not ended; the character before it ends a line. -/
theorem exists_last_line (s : List Char) :
    ∃ front last, s = front ++ last ∧ (∀ c ∈ last, inLine c = true) ∧
      ∀ d, front.getLast? = some d → inLine d = false := by
  induction s with
  | nil => exact ⟨[], [], rfl, by simp, by simp⟩
  | cons c s ih =>
    obtain ⟨front, last, rfl, line, ended⟩ := ih
    cases front with
    | cons d front =>
      exact ⟨c :: d :: front, last, rfl, line, by rwa [List.getLast?_cons_cons]⟩
    | nil =>
      cases hc : inLine c with
      | false => exact ⟨[c], last, rfl, line, by simp [hc]⟩
      | true => exact ⟨[], c :: last, rfl, by simpa [hc] using line, by simp⟩

/-- A piece of a line does not reach beyond the end of the line. -/
theorem prefix_of_line {piece line rest tail : List Char} {d : Char}
    (hp : ∀ c ∈ piece, inLine c = true) (hd : inLine d = false)
    (h : piece ++ tail = line ++ d :: rest) : ∃ v, line = piece ++ v := by
  have absent : d ∉ piece := fun inside => by simp [hp d inside] at hd
  obtain ⟨v, hv⟩ := Text.prefix_of_notMem absent h
  exact ⟨v, hv.symm⟩

/-- A text without an answer has none that starts before its last line, whatever follows. -/
theorem misses_ended {front last : List Char} (quiet : localsAnswer.find? (front ++ last) = none)
    (ended : ∀ d, front.getLast? = some d → inLine d = false) (rest : List Char) :
    localsAnswer.expr.Misses none front rest := by
  have absent := (find?_eq_none_iff_covers (p := localsAnswer) rfl).1 quiet
  intro a c t cut
  refine List.eq_nil_iff_forall_not_mem.2 fun x hx => ?_
  have covered := covers_of_mem_ways rfl hx
  obtain ⟨piece, d, hpiece⟩ : ∃ piece d, c :: t = piece ++ [d] :=
    ⟨_, _, (List.dropLast_append_getLast (by simp)).symm⟩
  have hd : inLine d = false := ended d (by simp [cut, hpiece])
  have whole : x.text ++ x.rest = piece ++ d :: rest := by
    rw [ways_append hx, ← List.cons_append, hpiece]
    simp
  obtain ⟨v, rfl⟩ := prefix_of_line (inLine_of_covers covered) hd whole
  refine absent a x.text (v ++ [d] ++ last) (by rw [cut, hpiece]; simp) ?_
  exact localsAnswer_covers.2 (localsAnswer_covers.1 covered)

/-- A run up to the phrase that there is no information fits, with all of the line after it. -/
theorem first?_line {line : List Char} (rest : List Char) (previous : Option Char)
    (hline : ∀ c ∈ line, inLine c = true) (within : unavailable <:+: line) :
    ∃ x, (many inLine ++ lit "ocal variable information not available" ++ many inLine).first?
        previous (line ++ '\r' :: rest) = some x ∧
      x.text = line ∧ x.rest = '\r' :: rest := by
  obtain ⟨u, v, rfl⟩ := within
  have hu : ∀ c ∈ u, inLine c = true := fun c hc => hline c (by simp [hc])
  have hv : ∀ c ∈ v, inLine c = true := fun c hc => hline c (by simp [hc])
  have stops : ∀ c, ('\r' :: rest).head? = some c → inLine c = false := by simp [inLine, but]
  have covered : (many inLine ++ lit "ocal variable information not available").Covers previous
      (u ++ unavailable) := ⟨u, unavailable, rfl, hu, rfl⟩
  obtain ⟨y, hy, y_text⟩ := exists_way_of_covers covered (v ++ '\r' :: rest)
  have y_rest : y.rest = v ++ '\r' :: rest := by
    have := ways_append hy
    rw [y_text] at this
    exact List.append_cancel_left this
  -- Some way up to the phrase can be followed by the rest of the line; the first one that can is
  -- taken, and it makes no difference which one that is.
  obtain ⟨w, hw, z, hz, first⟩ := exists_first?_seq (b := many inLine) hy
    (by rw [y_rest]; exact first?_many _ hv stops)
  have w_line : ∀ c ∈ w.text, inLine c = true := by
    obtain ⟨u', -, parts, hu', rfl⟩ := covers_of_mem_ways rfl hw
    rw [parts]
    exact inLine_append_unavailable hu'
  have whole : w.text ++ w.rest = (u ++ unavailable ++ v) ++ '\r' :: rest := by
    rw [ways_append hw]
    simp
  obtain ⟨v', hv'⟩ := prefix_of_line w_line (by decide) whole
  have w_rest : w.rest = v' ++ '\r' :: rest := by
    rw [hv', List.append_assoc] at whole
    exact List.append_cancel_left whole
  have v'_line : ∀ c ∈ v', inLine c = true := fun c hc => hline c (by rw [hv']; simp [hc])
  rw [w_rest, first?_many _ v'_line stops] at hz
  obtain rfl := Option.some.inj hz
  exact ⟨w.andThen ⟨v', '\r' :: rest, []⟩, by simpa using first, hv'.symm, rfl⟩

/-- That there is no information is an answer with all of its line. -/
theorem first?_unknown {line rest : List Char} (previous : Option Char)
    (hline : ∀ c ∈ line, inLine c = true) (within : unavailable <:+: line)
    (other : ¬ "No local variables".toList <+: line ++ '\r' :: rest) :
    ∃ x, localsAnswer.expr.first? previous (line ++ '\r' :: rest) = some x ∧
      x.text = line ∧ x.rest = '\r' :: rest := by
  obtain ⟨x, first, text_eq, rest_eq⟩ := first?_line rest previous hline within
  exact ⟨_, first?_group 1 ((first?_alt_right (ways_lit_seq_eq_nil other)).trans
    (first?_alt_left first)), text_eq, rest_eq⟩

/-- A text without an answer does not begin to say that there are no variables where another phrase
follows it. -/
theorem not_prefix_nothing {front last phrase : List Char}
    (quiet : localsAnswer.find? (front ++ last) = none) (rest : List Char) :
    ¬ "No local variables".toList <+: (last ++ 'L' :: phrase) ++ '\r' :: rest := by
  have absent := (find?_eq_none_iff_covers (p := localsAnswer) rfl).1 quiet
  have free : 'L' ∉ "No local variables".toList := by decide
  rintro ⟨tail, h⟩
  rw [List.append_assoc] at h
  obtain ⟨v, hv⟩ := ends_before 'L' (by decide) rfl
    (fun t ht _ hL => by
      rw [ht] at free
      exact free (List.mem_append_right _ (List.mem_of_mem_head? hL))) h
  refine absent front _ v (by rw [hv, List.append_assoc]) ?_
  exact localsAnswer_covers.2 (.inl ⟨[], by simp, by simp⟩)

/-- That nothing is known is an answer with all of its line, which may begin in what was not
taken. -/
theorem take?_unknown {stale note rest : List Char} (quiet : localsAnswer.find? stale = none)
    (hnote : ∀ c ∈ note, inLine c = true) {b : Buffer}
    (hb : b.pending = stale ++ ('L' :: (unavailable ++ note) ++ '\r' :: rest)) :
    ∃ found, b.take? localsAnswer = some (found, { b with pending := '\r' :: rest }) ∧
      found.matched ≠ methodArgumentsHeader := by
  obtain ⟨front, last, rfl, hlast, ended⟩ := exists_last_line stale
  have start : ∀ c ∈ 'L' :: (unavailable ++ note), inLine c = true := by
    have fixed : ∀ c ∈ 'L' :: unavailable, inLine c = true := by decide
    exact fun c hc => (List.mem_append.1 (List.cons_append ▸ hc)).elim (fixed c) (hnote c)
  have line : ∀ c ∈ last ++ 'L' :: (unavailable ++ note), inLine c = true := fun c hc =>
    (List.mem_append.1 hc).elim (hlast c) (start c)
  obtain ⟨x, first, text_eq, rest_eq⟩ := first?_unknown front.getLast? line
    ⟨last ++ ['L'], note, by simp⟩ (not_prefix_nothing quiet rest)
  have picks : localsAnswer.expr.Picks b.pending front x :=
    ⟨by simp [hb, text_eq, rest_eq], by rwa [text_eq, rest_eq], misses_ended quiet ended _⟩
  refine ⟨_, by rw [Buffer.take?_of_picks picks, rest_eq], fun same => ?_⟩
  have capital : 'L' ∉ methodArgumentsHeader.toList := by decide
  rw [← same] at capital
  simp [text_eq] at capital

-- ---------------------------------------------------------------------------
-- Whole answers
-- ---------------------------------------------------------------------------

theorem opens_arguments : Opens methodArgumentsHeader.toList 'M' :=
  ⟨by decide, by decide, by decide, by decide, by decide⟩

theorem opens_nothing : Opens "No local variables".toList 'N' :=
  ⟨by decide, by decide, by decide, by decide, by decide⟩

variable {b : Buffer} {prompt : List Char} {found : Expectation}

/-- The header of the arguments is found, and both blocks of variables follow. -/
theorem take?_listed {stale : List Char} (quiet : localsAnswer.find? stale = none)
    {arguments locals : List Assignment}
    (hb : b.pending = stale ++ (LocalsAnswer.listed arguments locals).text prompt) :
    b.take? localsAnswer = some (⟨.ofList stale, methodArgumentsHeader⟩,
      { b with pending := feedLines (assignedLines arguments) ++
        (localsHeader ++ (feedLines (assignedLines locals) ++ prompt)) }) := by
  have body : (LocalsAnswer.listed arguments locals).body ++ prompt =
      feedLines (assignedLines arguments) ++
        (localsHeader ++ (feedLines (assignedLines locals) ++ prompt)) := by
    simp only [LocalsAnswer.body, assigned_eq, List.append_assoc]
  have taken : b.take? localsAnswer =
      some (⟨.ofList stale, .ofList methodArgumentsHeader.toList⟩,
        { b with pending := (LocalsAnswer.listed arguments locals).body ++ prompt }) :=
    take?_phrase quiet opens_arguments (first?_arguments _) hb
  rw [taken, body, String.ofList_toList]

/-- Behind the header of the arguments both blocks of variables are read. -/
theorem frame?_of_listed {arguments locals : List Assignment}
    (taken : b.take? localsAnswer =
      some (found, { b with pending := feedLines (assignedLines arguments) ++
        (localsHeader ++ (feedLines (assignedLines locals) ++ prompt)) }))
    (announced : found.matched = methodArgumentsHeader)
    (divided : ∀ a ∈ arguments, ¬ localsHeader <:+: a.value.toList) (isPrompt : IsPrompt prompt) :
    b.frame? = some ((LocalsAnswer.listed arguments locals).frame, { b with pending := [] }) := by
  refine Buffer.frame?_eq_some_iff.2 ⟨found, _, .ofList (arguments.map Assignment.entry), _, _,
    taken, ?_, take?_prompt isPrompt
      (b := ⟨feedLines (assignedLines locals) ++ prompt, b.unfinished⟩)
      (assignedLines_plain _) rfl, ?_⟩
  · rw [Buffer.arguments?, if_pos announced, take?_localsHeader divided rfl]
    simp [parse_assignedLines]
  · simp [LocalsAnswer.frame, parse_assignedLines]

/-- Behind any other phrase there are no variables. -/
theorem frame?_of_other
    (taken : b.take? localsAnswer = some (found, { b with pending := "\r\n".toList ++ prompt }))
    (other : found.matched ≠ methodArgumentsHeader) (isPrompt : IsPrompt prompt) :
    b.frame? = some ({}, { b with pending := [] }) := by
  have ending : "\r\n".toList = feedLines (assignedLines []) := rfl
  refine Buffer.frame?_eq_some_iff.2 ⟨found, _, .empty, _, _, taken, ?_,
    take?_prompt isPrompt (b := ⟨"\r\n".toList ++ prompt, b.unfinished⟩)
      (assignedLines_plain []) (by rw [ending]), ?_⟩
  · rw [Buffer.arguments?, if_neg other]
  · rw [parse_assignedLines]
    rfl

/-- The answer is read as what it says, and its text is taken whole. -/
theorem LocalsAnswer.frame?_text {stale : List Char} (quiet : localsAnswer.find? stale = none)
    {a : LocalsAnswer} (divided : a.Divided) (isPrompt : IsPrompt prompt)
    (hb : b.pending = stale ++ a.text prompt) :
    b.frame? = some (a.frame, { b with pending := [] }) := by
  cases a with
  | listed arguments locals => exact frame?_of_listed (take?_listed quiet hb) rfl divided isPrompt
  | nothing =>
    have other : String.ofList "No local variables".toList ≠ methodArgumentsHeader := by decide
    exact frame?_of_other (take?_phrase quiet opens_nothing (first?_nothing _) hb) other isPrompt
  | unknown note line =>
    obtain ⟨found, taken, other⟩ := take?_unknown quiet line hb
    exact frame?_of_other taken other isPrompt

end Retrace.Printed
