import Retrace.Viewer.Highlight
import Mathlib.Data.List.Basic

/-!
# Where a line of source is cut

What stands in a line is told here without the lexemes: closed literals, and other characters, of
which no two start a comment, leave a scan outside of literals and comments. From there on a word, a
literal and a comment are one span each, and the spans are the whole line.
-/

namespace Retrace.Viewer

variable {quote c d : Char} {s t body before word after rest : List Char}

-- ---------------------------------------------------------------------------
-- Inside and outside of literals
-- ---------------------------------------------------------------------------

/-- Opens a literal, which the same character closes. -/
def IsQuote (c : Char) : Prop :=
  c = '"' ∨ c = '\x27'

/-- Text behind an opening quote that does not close the literal: every backslash takes the character
behind it along, and the quote stands behind a backslash only. -/
inductive Inside (quote : Char) : List Char → Prop where
  | nil : Inside quote []
  | plain {c : Char} {s : List Char} (other : c ≠ quote) (unescaping : c ≠ '\\')
      (later : Inside quote s) : Inside quote (c :: s)
  | escaped {s : List Char} (c : Char) (later : Inside quote s) : Inside quote ('\\' :: c :: s)

/-- The rest of a line behind an opening quote that nothing closes. Its last backslash may have nothing
to take along. -/
def Unclosed (quote : Char) (s : List Char) : Prop :=
  Inside quote s ∨ ∃ t, Inside quote t ∧ s = t ++ ['\\']

/-- Text that ends outside of literals and comments. -/
inductive Outside : List Char → Prop where
  | nil : Outside []
  | plain {c : Char} {s : List Char} (opens : ¬ IsQuote c) (comments : c = '/' → s.head? ≠ some '/')
      (later : Outside s) : Outside (c :: s)
  | literal {quote : Char} {body s : List Char} (opens : IsQuote quote) (inside : Inside quote body)
      (later : Outside s) : Outside (quote :: (body ++ quote :: s))

instance : DecidablePred IsQuote := fun c =>
  inferInstanceAs (Decidable (c = '"' ∨ c = '\x27'))

theorem IsQuote.not_isWordChar (h : IsQuote c) : isWordChar c = false := by
  rcases h with rfl | rfl <;> decide

theorem IsQuote.ne_slash (h : IsQuote c) : c ≠ '/' := by
  rcases h with rfl | rfl <;> decide

theorem IsQuote.ne_backslash (h : IsQuote c) : c ≠ '\\' := by
  rcases h with rfl | rfl <;> decide

theorem not_isWordChar_slash : isWordChar '/' = false := by
  decide

theorem cutLiteral_append_of_inside (h : Inside quote s) (t : List Char) :
    cutLiteral quote (s ++ t) = (s ++ (cutLiteral quote t).1, (cutLiteral quote t).2) := by
  induction h with
  | nil => rfl
  | plain other unescaping later ih =>
    rw [List.cons_append, cutLiteral.eq_3 _ _ _ (by simp [unescaping]), if_neg other, ih]
    rfl
  | escaped c later ih =>
    simp only [List.cons_append, cutLiteral, ih]

/-- A literal ends with the first quote that is not escaped. -/
theorem cutLiteral_of_inside (opens : IsQuote quote) (inside : Inside quote body)
    (after : List Char) :
    cutLiteral quote (body ++ quote :: after) = (body ++ [quote], after) := by
  have closes : cutLiteral quote (quote :: after) = ([quote], after) := by
    rw [cutLiteral.eq_3 _ _ _ (by simp [opens.ne_backslash]), if_pos rfl]
  rw [cutLiteral_append_of_inside inside, closes]

theorem cutLiteral_of_unclosed (opens : IsQuote quote) (h : Unclosed quote s) :
    cutLiteral quote s = (s, []) := by
  rcases h with inside | ⟨t, inside, rfl⟩
  · have whole := cutLiteral_append_of_inside inside []
    simpa [cutLiteral] using whole
  · have single : cutLiteral quote ['\\'] = (['\\'], []) := by
      rw [cutLiteral.eq_3 _ _ _ (by simp), if_neg (Ne.symm opens.ne_backslash)]
      rfl
    rw [cutLiteral_append_of_inside inside, single]

-- ---------------------------------------------------------------------------
-- The texts of the lexemes
-- ---------------------------------------------------------------------------

/-- The pieces into which a line is cut. -/
def lexTexts (s : List Char) : List (List Char) :=
  (lex s).map (·.text)

theorem lexTexts_nil : lexTexts [] = [] := by
  simp [lexTexts, lex]

theorem lexTexts_word (h : isWordChar c = true) (s : List Char) :
    lexTexts (c :: s) = (c :: s.takeWhile isWordChar) :: lexTexts (s.dropWhile isWordChar) := by
  rw [lexTexts, lex, if_pos h]
  rfl

theorem lexTexts_comment (rest : List Char) :
    lexTexts ('/' :: '/' :: rest) = ['/' :: '/' :: rest] := by
  rw [lexTexts, lex, if_neg (by simp [not_isWordChar_slash]), if_pos ⟨rfl, rfl⟩]
  rfl

theorem lexTexts_quote (opens : IsQuote c) (s : List Char) :
    lexTexts (c :: s) = (c :: (cutLiteral c s).1) :: lexTexts (cutLiteral c s).2 := by
  have quote : c = '"' ∨ c = '\x27' := opens
  rw [lexTexts, lex, if_neg (by simp [opens.not_isWordChar]), if_neg (by simp [opens.ne_slash]),
    if_pos quote]
  rfl

theorem lexTexts_mark (word : isWordChar c = false) (opens : ¬ IsQuote c)
    (comments : c = '/' → s.head? ≠ some '/') : lexTexts (c :: s) = [c] :: lexTexts s := by
  have quote : ¬ (c = '"' ∨ c = '\x27') := opens
  rw [lexTexts, lex, if_neg (by simp [word]), if_neg (fun h => comments h.1 h.2), if_neg quote]
  rfl

/-- No word and no comment reaches from the end of one text into the other. -/
def Apart (s t : List Char) : Prop :=
  ∀ c d, s.getLast? = some c → t.head? = some d →
    ¬ (isWordChar c = true ∧ isWordChar d = true) ∧ ¬ (c = '/' ∧ d = '/')

theorem Apart.of_cons (h : Apart (c :: s) t) : Apart s t := by
  intro x y last head
  refine h x y ?_ head
  rw [List.getLast?_cons, last]
  rfl

theorem apart_nil (s : List Char) : Apart s [] := by
  intro x y _ head
  simp at head

theorem apart_of_quote (opens : IsQuote c) (s : List Char) : Apart before (c :: s) := by
  intro x y _ head
  obtain rfl : c = y := by simpa using head
  exact ⟨by simp [opens.not_isWordChar], fun slashes => opens.ne_slash slashes.2⟩

/-- A character is put in front of the word that follows it. -/
theorem lexTexts_word_word (first : isWordChar c = true) (second : isWordChar d = true)
    (s : List Char) :
    ∃ piece pieces, lexTexts (d :: s) = piece :: pieces ∧
      lexTexts (c :: d :: s) = (c :: piece) :: pieces := by
  refine ⟨_, _, lexTexts_word second s, ?_⟩
  rw [lexTexts_word first, List.takeWhile_cons_of_pos second, List.dropWhile_cons_of_pos second]

/-- A character that nothing behind it belongs to is a piece of its own. -/
theorem lexTexts_alone (opens : ¬ IsQuote c) (apart : Apart [c] s) :
    lexTexts (c :: s) = [c] :: lexTexts s := by
  cases word : isWordChar c with
  | false =>
    exact lexTexts_mark word opens fun slash head => (apart c '/' rfl head).2 ⟨slash, rfl⟩
  | true =>
    cases s with
    | nil => simp [lexTexts_word word]
    | cons d s =>
      have stops : ¬ isWordChar d = true := fun next => (apart c d rfl rfl).1 ⟨word, next⟩
      rw [lexTexts_word word, List.takeWhile_cons_of_neg stops, List.dropWhile_cons_of_neg stops]

/-- A whole run of word characters is one piece. -/
theorem lexTexts_run (nonempty : word ≠ []) (all : ∀ c ∈ word, isWordChar c = true)
    (ends : ∀ d, after.head? = some d → isWordChar d = false) :
    lexTexts (word ++ after) = word :: lexTexts after := by
  cases word with
  | nil => exact absurd rfl nonempty
  | cons c word =>
    obtain ⟨first, others⟩ := List.forall_mem_cons.1 all
    have stops : after.takeWhile isWordChar = [] ∧ after.dropWhile isWordChar = after := by
      cases after with
      | nil => exact ⟨rfl, rfl⟩
      | cons d after => simp [ends d rfl]
    rw [List.cons_append, lexTexts_word first, List.takeWhile_append_of_pos others, stops.1,
      List.dropWhile_append_of_pos others, stops.2, List.append_nil]

/-- A character in front of two texts that are cut apart belongs to the first of them. -/
theorem lexTexts_cons_append (opens : ¬ IsQuote c) (comments : c = '/' → s.head? ≠ some '/')
    (apart : Apart (c :: s) t) (cut : lexTexts (s ++ t) = lexTexts s ++ lexTexts t) :
    lexTexts (c :: s ++ t) = lexTexts (c :: s) ++ lexTexts t := by
  cases s with
  | nil =>
    have single : lexTexts [c] = [[c]] := by
      rw [lexTexts_alone opens (apart_nil [c]), lexTexts_nil]
    rw [single]
    exact lexTexts_alone opens apart
  | cons d s =>
    by_cases goes_on : isWordChar c = true ∧ isWordChar d = true
    · obtain ⟨piece, pieces, alone, longer⟩ := lexTexts_word_word goes_on.1 goes_on.2 s
      obtain ⟨piece', pieces', joined, longer'⟩ := lexTexts_word_word goes_on.1 goes_on.2 (s ++ t)
      rw [List.cons_append, joined, alone, List.cons_append] at cut
      obtain ⟨rfl, rfl⟩ := List.cons.inj cut
      rw [List.cons_append, List.cons_append, longer', longer, List.cons_append]
    · have border (u : List Char) : Apart [c] (d :: u) := by
        intro x y last head
        obtain rfl : c = x := by simpa using last
        obtain rfl : d = y := by simpa using head
        exact ⟨goes_on, fun slashes => comments slashes.1 (congrArg some slashes.2)⟩
      have joined := lexTexts_alone opens (border (s ++ t))
      rw [List.cons_append, List.cons_append, joined, ← List.cons_append, cut,
        lexTexts_alone opens (border s), List.cons_append]

/-- From a place outside of literals and comments on a line is cut as if it began there. -/
theorem lexTexts_append (outside : Outside s) (apart : Apart s t) :
    lexTexts (s ++ t) = lexTexts s ++ lexTexts t := by
  induction outside with
  | nil => rw [lexTexts_nil, List.nil_append, List.nil_append]
  | plain opens comments later ih =>
    exact lexTexts_cons_append opens comments apart (ih apart.of_cons)
  | @literal quote body s opens inside later ih =>
    have border : Apart s t := by
      intro x y last head
      refine apart x y ?_ head
      simp [List.getLast?_cons, List.getLast?_append, last]
    have joined : quote :: (body ++ quote :: s) ++ t = quote :: (body ++ quote :: (s ++ t)) := by
      simp
    rw [joined, lexTexts_quote opens, lexTexts_quote opens, cutLiteral_of_inside opens inside,
      cutLiteral_of_inside opens inside, ih border, List.cons_append]

-- ---------------------------------------------------------------------------
-- Places in a line
-- ---------------------------------------------------------------------------

/-- Where a text ends: outside of literals and comments, in a literal, or in a comment. -/
inductive Place : List Char → Prop where
  | outside {s : List Char} (outside : Outside s) : Place s
  | literal {before body : List Char} {quote : Char} (outside : Outside before)
      (opens : IsQuote quote) (unclosed : Unclosed quote body) : Place (before ++ quote :: body)
  | comment {before : List Char} (rest : List Char) (outside : Outside before)
      (starts : before.getLast? ≠ some '/') : Place (before ++ '/' :: '/' :: rest)

/-- A literal is closed, or it lasts to the end of the text. -/
theorem closed_or_unclosed (quote : Char) (s : List Char) :
    (∃ body after, s = body ++ quote :: after ∧ Inside quote body) ∨ Unclosed quote s := by
  fun_induction cutLiteral quote s with
  | case1 => exact .inr (.inl .nil)
  | case2 c rest body after cut ih =>
    rcases ih with ⟨body, after, rfl, inside⟩ | inside | ⟨t, inside, rfl⟩
    · exact .inl ⟨_, after, rfl, .escaped c inside⟩
    · exact .inr (.inl (.escaped c inside))
    · exact .inr (.inr ⟨_, .escaped c inside, rfl⟩)
  | case3 rest => exact .inl ⟨[], rest, rfl, .nil⟩
  | case4 c rest pair other body after cut ih =>
    by_cases escapes : c = '\\'
    · cases rest with
      | nil => exact .inr (.inr ⟨[], .nil, by rw [escapes, List.nil_append]⟩)
      | cons d rest => exact absurd rfl (pair d rest escapes)
    · rcases ih with ⟨body, after, rfl, inside⟩ | inside | ⟨t, inside, rfl⟩
      · exact .inl ⟨_, after, rfl, .plain other escapes inside⟩
      · exact .inr (.inl (.plain other escapes inside))
      · exact .inr (.inr ⟨_, .plain other escapes inside, rfl⟩)

theorem Outside.plain_of_append (opens : ¬ IsQuote c)
    (comments : c = '/' → (s ++ t).head? ≠ some '/') (later : Outside s) : Outside (c :: s) := by
  refine .plain opens (fun slash head => comments slash ?_) later
  rw [List.head?_append, head]
  rfl

theorem Place.plain (opens : ¬ IsQuote c) (comments : c = '/' → s.head? ≠ some '/')
    (later : Place s) : Place (c :: s) := by
  cases later with
  | outside outside => exact .outside (.plain opens comments outside)
  | literal outside quote unclosed =>
    exact .literal (.plain_of_append opens comments outside) quote unclosed
  | @comment before rest outside starts =>
    refine .comment rest (.plain_of_append opens comments outside) ?_
    cases before with
    | nil =>
      intro slash
      exact comments (by simpa using slash) rfl
    | cons d before => simpa [List.getLast?_cons_cons] using starts

theorem Place.behind_literal {body : List Char} (opens : IsQuote quote) (inside : Inside quote body)
    (later : Place s) : Place (quote :: (body ++ quote :: s)) := by
  cases later with
  | outside outside => exact .outside (.literal opens inside outside)
  | @literal before tail other outside quote' unclosed =>
    have front := Outside.literal opens inside outside
    simpa using Place.literal front quote' unclosed
  | @comment before rest outside starts =>
    have front := Outside.literal opens inside outside
    have last : (quote :: (body ++ quote :: before)).getLast? ≠ some '/' := by
      have ne := opens.ne_slash
      cases before with
      | nil => simp [List.getLast?_cons, ne]
      | cons d before => simpa [List.getLast?_cons, List.getLast?_append] using starts
    simpa using Place.comment rest front last

/-- There is no other place in a text. -/
theorem place (s : List Char) : Place s := by
  match s with
  | [] => exact .outside .nil
  | c :: s =>
    by_cases opens : IsQuote c
    · rcases closed_or_unclosed c s with ⟨body, after, closed, inside⟩ | unclosed
      · rw [closed]
        exact .behind_literal opens inside (place after)
      · exact .literal .nil opens unclosed
    · by_cases comment : c = '/' ∧ s.head? = some '/'
      · obtain ⟨rfl, head⟩ := comment
        obtain ⟨rest, rfl⟩ := List.head?_eq_some_iff.1 head
        exact .comment rest .nil (by simp)
      · exact .plain opens (fun slash head => comment ⟨slash, head⟩) (place s)
termination_by s.length
decreasing_by
  · rw [closed]
    simp only [List.length_cons, List.length_append]
    omega
  · simp

-- ---------------------------------------------------------------------------
-- Spans
-- ---------------------------------------------------------------------------

/-- One span shows a piece of a line, and the others show what is before and behind it. -/
def OneSpan (spans : StyledLine) (before piece after : List Char) : Prop :=
  ∃ left span right, spans = left ++ span :: right ∧ StyledLine.text left = String.ofList before ∧
    span.text = String.ofList piece ∧ StyledLine.text right = String.ofList after

theorem text_map_span (lexemes : List Lexeme) :
    StyledLine.text (lexemes.map Lexeme.span) =
      String.ofList (lexemes.map (·.text)).flatten := by
  induction lexemes with
  | nil => rfl
  | cons lexeme lexemes ih =>
    unfold StyledLine.text at ih ⊢
    rw [List.map_cons, List.map_cons, String.join_cons, ih, List.map_cons, List.flatten_cons,
      String.ofList_append]
    rfl

/-- A piece between the pieces of two texts is one span. -/
theorem oneSpan_of_lexTexts {line piece : List Char}
    (cut : lexTexts line = lexTexts before ++ piece :: lexTexts after) :
    OneSpan (highlight line) before piece after := by
  obtain ⟨left, others, found, first, rest⟩ := List.map_eq_append_iff.1 cut
  obtain ⟨lexeme, right, rfl, rfl, last⟩ := List.map_eq_cons_iff.1 rest
  refine ⟨left.map Lexeme.span, lexeme.span, right.map Lexeme.span, ?_, ?_, rfl, ?_⟩
  · rw [highlight, found, List.map_append, List.map_cons]
  · rw [text_map_span, first, lexTexts, lex_flatten]
  · rw [text_map_span, last, lexTexts, lex_flatten]

/-- The word is a run of word characters that goes on in neither direction. -/
structure WordRun (before word after : List Char) : Prop where
  nonempty : word ≠ []
  all : ∀ c ∈ word, isWordChar c = true
  starts : ∀ c, before.getLast? = some c → isWordChar c = false
  ends : ∀ c, after.head? = some c → isWordChar c = false

/-- The spans are the line, cut where its words, literals and comments begin and end. -/
structure Cuts (line : List Char) (spans : StyledLine) : Prop where
  nonempty : ∀ span ∈ spans, span.text ≠ ""
  whole : spans.text = String.ofList line
  places : ∀ before, before <+: line → Place before
  word : ∀ before word after, line = before ++ word ++ after → Outside before →
    WordRun before word after → OneSpan spans before word after
  closed : ∀ before quote body after, line = before ++ quote :: (body ++ quote :: after) →
    Outside before → IsQuote quote → Inside quote body →
    OneSpan spans before (quote :: (body ++ [quote])) after
  unclosed : ∀ before quote body, line = before ++ quote :: body →
    Outside before → IsQuote quote → Unclosed quote body →
    OneSpan spans before (quote :: body) []
  comment : ∀ before rest, line = before ++ '/' :: '/' :: rest →
    Outside before → before.getLast? ≠ some '/' → OneSpan spans before ('/' :: '/' :: rest) []

theorem lexeme_text_ne_nil (s : List Char) : ∀ lexeme ∈ lex s, lexeme.text ≠ [] := by
  fun_induction lex s with
  | case1 => simp
  | case2 c rest _ after ih => simpa using ih
  | case3 => simp
  | case4 c rest _ _ _ literal ih => simpa using ih
  | case5 c rest _ _ _ ih => simpa using ih

/-- Highlighting only cuts the line, and cuts no word, literal or comment. -/
theorem highlight_cuts (line : List Char) : Cuts line (highlight line) where
  nonempty span shown := by
    obtain ⟨lexeme, found, rfl⟩ := List.mem_map.1 shown
    have text := lexeme_text_ne_nil line lexeme found
    simpa [Lexeme.span, ← String.ofList_nil] using text
  whole := by rw [highlight, text_map_span, lex_flatten]
  places before _ := place before
  word before word after cut outside run := by
    have apart : Apart before (word ++ after) := by
      intro c d last head
      have first := run.starts c last
      obtain ⟨e, rest, rfl⟩ := List.exists_cons_of_ne_nil run.nonempty
      obtain rfl : e = d := by simpa using head
      have second := run.all e (.head _)
      refine ⟨by simp [first], ?_⟩
      rintro ⟨-, rfl⟩
      simp [not_isWordChar_slash] at second
    apply oneSpan_of_lexTexts
    rw [cut, List.append_assoc, lexTexts_append outside apart,
      lexTexts_run run.nonempty run.all run.ends]
  closed before quote body after cut outside opens inside := by
    apply oneSpan_of_lexTexts
    rw [cut, lexTexts_append outside (apart_of_quote opens _), lexTexts_quote opens,
      cutLiteral_of_inside opens inside]
  unclosed before quote body cut outside opens unclosed := by
    apply oneSpan_of_lexTexts
    rw [cut, lexTexts_append outside (apart_of_quote opens _), lexTexts_quote opens,
      cutLiteral_of_unclosed opens unclosed]
  comment before rest cut outside starts := by
    have apart : Apart before ('/' :: '/' :: rest) := by
      intro c d last head
      obtain rfl : '/' = d := by simpa using head
      refine ⟨by simp [not_isWordChar_slash], ?_⟩
      rintro ⟨rfl, -⟩
      exact starts last
    apply oneSpan_of_lexTexts
    rw [cut, lexTexts_append outside apart, lexTexts_comment, lexTexts_nil]

/-- A literal with an escaped quote and two slashes, a word, and a comment with a quote. -/
def tricky : List Char :=
  "a=\"\\\"//\"+b//'c".toList

/-- The slashes in the literal start no comment, and the quote in the comment no literal; a literal that
ends with a backslash lasts to the end of its line. -/
theorem highlight_tricky :
    OneSpan (highlight tricky) "a=".toList "\"\\\"//\"".toList "+b//'c".toList ∧
      OneSpan (highlight tricky) "a=\"\\\"//\"+".toList "b".toList "//'c".toList ∧
      OneSpan (highlight tricky) "a=\"\\\"//\"+b".toList "//'c".toList [] ∧
      OneSpan (highlight "('\\".toList) "(".toList "'\\".toList [] := by
  have inside : Inside '"' "\\\"//".toList :=
    .escaped '"' (.plain (by decide) (by decide) (.plain (by decide) (by decide) .nil))
  have start : Outside "a=".toList :=
    .plain (by decide) (by decide) (.plain (by decide) (by decide) .nil)
  have middle (s : List Char) (behind : Outside s) :
      Outside ('a' :: '=' :: '"' :: ("\\\"//".toList ++ '"' :: s)) :=
    .plain (by decide) (by simp) (.plain (by decide) (by simp)
      (.literal (by decide) inside behind))
  have first : Outside "a=\"\\\"//\"+".toList :=
    middle ['+'] (.plain (by decide) (by decide) .nil)
  have second : Outside "a=\"\\\"//\"+b".toList :=
    middle ['+', 'b'] (.plain (by decide) (by decide) (.plain (by decide) (by decide) .nil))
  have bracket : Outside "(".toList := .plain (by decide) (by decide) .nil
  have run : WordRun "a=\"\\\"//\"+".toList "b".toList "//'c".toList := by
    refine ⟨by decide, List.all_eq_true.1 (by decide), ?_, ?_⟩
    all_goals
      rintro _ ⟨⟩
      decide
  have cuts := highlight_cuts tricky
  exact ⟨cuts.closed "a=".toList '"' "\\\"//".toList "+b//'c".toList rfl start (by decide) inside,
    cuts.word _ _ _ rfl first run,
    cuts.comment _ "'c".toList rfl second (by decide),
    (highlight_cuts _).unclosed "(".toList '\x27' ['\\'] rfl bracket (by decide)
      (.inr ⟨[], .nil, rfl⟩)⟩

end Retrace.Viewer
