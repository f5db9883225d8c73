import Retrace.Proofs.Debugger.Location
import Retrace.Proofs.Debugger.Prompt

/-!
# Source lines

A line that starts with a number and goes on behind a blank shows a line of
source. The first one in a text is found, with its number and its source, and
none is found in a text that has none.
-/

namespace Retrace.Printed

open Message Retrace.Expr

variable {line rest before t : List Char} {previous : Option Char}

/-- Whether a line shows a line of source: digits, a blank or tab, and one more character. -/
def isListed (line : List Char) : Bool :=
  match line.dropWhile Char.isDigit with
  | c :: d :: _ => line.head?.any Char.isDigit && (blankOrTab c && inLine d)
  | _ => false

/-- A source line as it is printed. -/
structure SourceLine where
  number : Digits
  /-- What stands between the number and the source. -/
  gap : List Char
  source : List Char
  gap_ne : gap ≠ []
  gap_blank : ∀ c ∈ gap, blankOrTab c = true
  source_ne : source ≠ []
  source_line : ∀ c ∈ source, inLine c = true
  source_start : ∀ c, source.head? = some c → blankOrTab c = false

/-- The line without its ending. -/
def SourceLine.text (l : SourceLine) : List Char :=
  l.number.text ++ (l.gap ++ l.source)

-- ---------------------------------------------------------------------------
-- Other lines
-- ---------------------------------------------------------------------------

theorem inLine_of_blankOrTab {c : Char} (h : blankOrTab c = true) : inLine c = true := by
  simp only [blankOrTab, Bool.or_eq_true, decide_eq_true_eq] at h
  rcases h with rfl | rfl <;> decide

theorem isDigit_of_blankOrTab {c : Char} (h : blankOrTab c = true) : c.isDigit = false := by
  simp only [blankOrTab, Bool.or_eq_true, decide_eq_true_eq] at h
  rcases h with rfl | rfl <;> decide

theorem isListed_of_start (h : ∀ c, line.head? = some c → c.isDigit = false) :
    isListed line = false := by
  unfold isListed
  split
  · cases line with
    | nil => rfl
    | cons c line => simp [h c rfl]
  · rfl

/-- A text that the pattern covers begins a line that shows a line of source. -/
theorem isListed_of_covers {w : List Char} (h : sourceListing.expr.Covers previous w)
    (tail : List Char) : isListed (w ++ tail) = true ∧ '\n' ∉ w := by
  obtain ⟨_, source, rfl, ⟨_, gap, rfl, ⟨_, number, rfl, ⟨-, rfl⟩, hn⟩, hg⟩, hs⟩ := h
  obtain ⟨number_ne, digits⟩ := covers_many1.1 hn
  obtain ⟨gap_ne, blanks⟩ := covers_many1.1 hg
  obtain ⟨source_ne, inside⟩ := covers_many1.1 hs
  obtain ⟨n, number, rfl⟩ := List.exists_cons_of_ne_nil number_ne
  obtain ⟨c, gap, rfl⟩ := List.exists_cons_of_ne_nil gap_ne
  obtain ⟨d, shown, next, shows⟩ : ∃ d t, gap ++ (source ++ tail) = d :: t ∧ inLine d = true := by
    cases gap with
    | nil =>
      obtain ⟨d, source, rfl⟩ := List.exists_cons_of_ne_nil source_ne
      exact ⟨d, source ++ tail, rfl, inside d (.head _)⟩
    | cons d gap => exact ⟨d, _, rfl, inLine_of_blankOrTab (blanks d (by simp))⟩
  have blank : blankOrTab c = true := blanks c (.head _)
  have behind : (n :: number ++ (c :: gap ++ (source ++ tail))).dropWhile Char.isDigit =
      c :: d :: shown := by
    rw [List.dropWhile_append_of_pos digits, List.cons_append, next]
    simp [isDigit_of_blankOrTab blank]
  constructor
  · have text_eq : [] ++ n :: number ++ c :: gap ++ source ++ tail =
        n :: number ++ (c :: gap ++ (source ++ tail)) := by simp
    rw [text_eq, isListed, behind]
    simp [digits n (.head _), blank, shows]
  · intro feed
    simp only [List.nil_append, List.mem_append] at feed
    rcases feed with (feed | feed) | feed
    · exact absurd (digits _ feed) (by decide)
    · exact absurd (blanks _ feed) (by decide)
    · exact absurd (inside _ feed) (by decide)

/-- Another line is not taken for one that shows a line of source. -/
theorem ways_sourceListing_eq_nil (unlisted : isListed line = false)
    (ends : ∀ c, rest.head? = some c → c = '\n') (previous : Option Char) :
    sourceListing.expr.ways previous (line ++ rest) = [] := by
  refine List.eq_nil_iff_forall_not_mem.2 fun x hx => ?_
  have covered := covers_of_mem_ways rfl hx
  have within : x.text <+: line := by
    rcases List.prefix_or_prefix_of_prefix ⟨x.rest, ways_append hx⟩ ⟨rest, rfl⟩ with h | ⟨u, hu⟩
    · exact h
    · cases u with
      | nil => exact ⟨[], by simpa using hu.symm⟩
      | cons c u =>
        have behind : (c :: u) ++ x.rest = rest := by
          have whole := ways_append hx
          rw [← hu, List.append_assoc] at whole
          exact List.append_cancel_left whole
        obtain rfl : c = '\n' := ends c (by simp [← behind])
        exact absurd (by simp [← hu]) (isListed_of_covers covered []).2
  obtain ⟨tail, rfl⟩ := within
  simp [(isListed_of_covers covered tail).1] at unlisted

theorem anchored_sourceListing : sourceListing.expr.Anchored :=
  anchored_lineStart.seq.seq.seq

theorem misses_sourceListing {lines : List (List Char)}
    (h : ∀ l ∈ lines, '\n' ∉ l ∧ isListed l = false) (previous : Option Char) (rest : List Char) :
    sourceListing.expr.Misses previous (feedLines lines) rest := by
  induction lines generalizing previous with
  | nil => exact misses_nil
  | cons line lines ih =>
    obtain ⟨⟨free, unlisted⟩, others⟩ := List.forall_mem_cons.1 h
    rw [feedLines_cons]
    exact anchored_sourceListing.misses_cons_line free
      (ways_sourceListing_eq_nil unlisted (by simp) _) (ih others _)

/-- In a text none of whose lines shows a line of source none is found. -/
theorem find?_sourceListing_eq_none {lines : List (List Char)} {last : List Char}
    (h : ∀ l ∈ lines, '\n' ∉ l ∧ isListed l = false) (free : '\n' ∉ last)
    (unlisted : isListed last = false) :
    sourceListing.find? (feedLines lines ++ last) = none := by
  rw [Pattern.find?_eq_none_iff]
  constructor
  · refine misses_append.2 ⟨misses_sourceListing h _ _, ?_⟩
    exact anchored_sourceListing.misses_line free (ways_sourceListing_eq_nil unlisted (by simp) _)
  · have nothing : isListed [] = false := rfl
    exact ways_sourceListing_eq_nil nothing (by simp) _

theorem find?_sourceListing_feedLines {lines : List (List Char)}
    (h : ∀ l ∈ lines, '\n' ∉ l ∧ isListed l = false) :
    sourceListing.find? (feedLines lines) = none := by
  simpa using find?_sourceListing_eq_none h List.not_mem_nil rfl

theorem find?_sourceListing_nil : sourceListing.find? [] = none := by
  have nothing : sourceListing.find? (feedLines []) = none := find?_sourceListing_feedLines (by simp)
  exact nothing

-- ---------------------------------------------------------------------------
-- The first source line
-- ---------------------------------------------------------------------------

namespace SourceLine

variable (l : SourceLine)

theorem gap_start (t : List Char) : ∀ c, (l.gap ++ t).head? = some c → c.isDigit = false := by
  obtain ⟨d, gap, hgap⟩ := List.exists_cons_of_ne_nil l.gap_ne
  intro c hc
  obtain rfl : d = c := by simpa [hgap] using hc
  exact isDigit_of_blankOrTab (l.gap_blank d (by simp [hgap]))

theorem source_start_append (t : List Char) :
    ∀ c, (l.source ++ t).head? = some c → blankOrTab c = false := by
  obtain ⟨d, source, hsource⟩ := List.exists_cons_of_ne_nil l.source_ne
  intro c hc
  exact l.source_start c (by simpa [hsource] using hc)

/-- A source line is read up to the end of the line. -/
theorem first?_text (start : previous = none ∨ previous = some '\n')
    (ends : ∀ c, rest.head? = some c → inLine c = false) :
    ∃ x, sourceListing.expr.first? previous (l.text ++ rest) = some x ∧
      x.group? 1 = some l.number.text ∧ x.group? 2 = some l.source := by
  have source (previous : Option Char) :=
    first?_group 2 (first?_many1 previous l.source_ne l.source_line ends)
  have gap (previous : Option Char) := first?_seq
    (first?_many1 previous l.gap_ne l.gap_blank (l.source_start_append rest)) (source _)
  have number (previous : Option Char) :=
    first?_seq (first?_group 1 (first?_digits l.number previous _ (l.gap_start _))) (gap _)
  have first := first?_seq (first?_lineStart start) (number _)
  have same : sourceListing.expr.first? previous (l.text ++ rest) =
      (.lineStart ++ (.group 1 (many1 Char.isDigit) ++
        (many1 blankOrTab ++ .group 2 (many1 inLine)))).first? previous
        (l.number.text ++ (l.gap ++ (l.source ++ rest))) := by
    simp only [sourceListing, first?_assoc, SourceLine.text, List.append_assoc]
  exact ⟨_, same.trans first, by simp, by simp⟩

/-- The first source line is found, with its number and its source. -/
theorem find?_sourceListing {lines : List (List Char)}
    (h : ∀ l ∈ lines, '\n' ∉ l ∧ isListed l = false)
    (ends : ∀ c, rest.head? = some c → inLine c = false) :
    ∃ m, sourceListing.find? (feedLines lines ++ (l.text ++ rest)) = some m ∧
      m.group? 1 = some l.number.text ∧ m.group? 2 = some l.source := by
  obtain ⟨x, hx, groups⟩ := l.first?_text (getLast?_feedLines lines) ends
  have covered := ways_append (List.mem_of_mem_head? hx)
  refine ⟨_, Pattern.find?_of_picks ⟨?_, ?_, misses_sourceListing h _ _⟩, groups⟩
  · rw [covered]
  · rw [covered]
    exact hx

end SourceLine

-- ---------------------------------------------------------------------------
-- The source line of a stop
-- ---------------------------------------------------------------------------

/-- The source line of a stop. -/
def Stop.listing (s : Stop) : SourceLine where
  number := Stop.number s.listed
  gap := s.gap.toList
  source := s.source.toList
  gap_ne := by simpa using s.gap_ne
  gap_blank := s.gap_blank
  source_ne := by simpa using s.source_ne
  source_line := s.source_line
  source_start := s.source_start

/-- The source line of a stop is found, with its number and its text. -/
theorem find?_sourceListing (s : Stop) (ends : ∀ c, rest.head? = some c → inLine c = false) :
    ∃ m, sourceListing.find? (s.sourceLine ++ rest) = some m ∧
      m.group? 1 = some (Stop.digits s.listed) ∧ m.group? 2 = some s.source.toList := by
  have first : ∀ l ∈ ([] : List (List Char)), '\n' ∉ l ∧ isListed l = false := by simp
  exact s.listing.find?_sourceListing first ends

end Retrace.Printed
