import Retrace.Proofs.Debugger.Stop
import Retrace.Proofs.Session.Stepping

/-!
# Taking a stop

The listing after a header goes up to the prompt. A stop that can be read is
taken whole, and its event is the one that was printed.
-/

namespace Retrace.Printed

open Message

variable {s : Stop}

-- ---------------------------------------------------------------------------
-- The listing
-- ---------------------------------------------------------------------------

theorem inThread_of_isDigit {c : Char} (h : c.isDigit = true) : inThread c = true := by
  have bounds := Numeral.toNat_of_isDigit h
  have differs (d : Char) (hd : d.toNat < 48 ∨ 57 < d.toNat) : c ≠ d := by
    rintro rfl
    omega
  simp [inThread, but, Numeral.isBlank_of_isDigit h, differs]

theorem unprompted_sourceLine (s : Stop) : Unprompted (s.sourceLine ++ ['\r']) := by
  have gap_ne : s.gap.toList ≠ [] := by simpa using s.gap_ne
  obtain ⟨c, gap, hgap⟩ := List.exists_cons_of_ne_nil gap_ne
  have blank := s.gap_blank c (by simp [hgap])
  have stops : inThread c = false ∧ c ≠ '[' := by
    simp only [blankOrTab, Bool.or_eq_true, decide_eq_true_eq] at blank
    rcases blank with rfl | rfl <;> decide
  exact ⟨Stop.digits s.listed, c, gap ++ s.source.toList ++ ['\r'],
    by simp [Stop.sourceLine, hgap], fun d hd => inThread_of_isDigit (isDigit_of_mem_digits hd),
    stops.1, stops.2⟩

theorem no_feed_sourceLine (s : Stop) : '\n' ∉ s.sourceLine := by
  have number : '\n' ∉ Stop.digits s.listed := notMem_digits (by decide)
  have gap : '\n' ∉ s.gap.toList := fun h => absurd (s.gap_blank _ h) (by decide)
  have source : '\n' ∉ s.source.toList := no_feed_of_inLine s.source_line
  simp [Stop.sourceLine, number, gap, source]

/-- The lines of a listing. -/
def Stop.listingLines (s : Stop) : List (List Char) :=
  [s.sourceLine ++ ['\r'], ['\r']]

theorem listing_eq (s : Stop) : s.sourceLine ++ "\r\n\r\n".toList = feedLines s.listingLines := by
  simp [Stop.listingLines, feedLines]

theorem listingLines_plain (s : Stop) : ∀ l ∈ s.listingLines, '\n' ∉ l ∧ Unprompted l := by
  intro l hl
  simp only [Stop.listingLines, List.mem_cons, List.not_mem_nil, or_false] at hl
  rcases hl with rfl | rfl
  · exact ⟨by simp [no_feed_sourceLine], unprompted_sourceLine s⟩
  · exact ⟨by decide, unprompted_return⟩

/-- The listing after a header is taken up to the prompt. -/
theorem take?_listing (s : Stop) {prompt : List Char} (isPrompt : IsPrompt prompt) {b : Buffer}
    (hb : b.pending = s.sourceLine ++ ("\r\n\r\n".toList ++ prompt)) :
    b.take? Message.prompt = some (⟨.ofList (s.sourceLine ++ "\r\n\r\n".toList), .ofList prompt⟩,
      { b with pending := [] }) := by
  rw [← List.append_assoc, listing_eq] at hb
  rw [take?_prompt isPrompt (listingLines_plain s) hb, listing_eq]

-- ---------------------------------------------------------------------------
-- Stops
-- ---------------------------------------------------------------------------

/-- A method entry is not announced without its first letter. -/
theorem Calm.unannounced {lead : List Char} (calm : Calm lead) :
    Session.announcesEntry lead = false := by
  refine Bool.eq_false_iff.2 fun announced => calm 'M' (by simp) ?_
  have ending : methodEnteredMarker.toList <:+ Text.trimEnd lead := by
    simpa [Session.announcesEntry] using announced
  have starts : 'M' ∈ methodEnteredMarker.toList := by decide
  have trimmed := List.mem_reverse.1 (ending.subset starts)
  exact List.mem_reverse.1 ((List.dropWhile_sublist _).subset trimmed)

/-- A stop that can be read is read, and its text is taken whole. -/
theorem stop?_textBetween {s : Stop} (h : s.Legible) {lead prompt : List Char} (calm : Calm lead)
    (isPrompt : IsPrompt prompt) {b : Buffer} (hb : b.pending = s.textBetween lead prompt) :
    b.stop? = some (s.event, { b with pending := [] }) := by
  refine Buffer.stop?_eq_some_iff.2 ⟨_, _, _, take?_header calm h.plain.spaced hb, ?_,
    take?_listing s isPrompt rfl, ?_⟩
  · rw [String.toList_ofList]
    exact isStop_header h.plain h.unexceptional
  · simp only [String.toList_ofList]
    rw [calm.unannounced, ofOutput?_text h (by simp [inLine, but])]
    rfl

theorem stop?_text {s : Stop} (h : s.Legible) {b : Buffer} (hb : b.pending = s.text) :
    b.stop? = some (s.event, { b with pending := [] }) :=
  stop?_textBetween h calm_lead isPrompt_prompt hb

end Retrace.Printed
