import Retrace.Debugger.Message
import Retrace.Proofs.Pattern.Settled

/-!
# The shapes of prompts and headers

What the patterns for prompts and for step headers cover, in plain words: a
prompt is a thread name with a number in brackets at the start of a line, and a
header is a title with the rest of its line. Neither ends inside another one.
-/

namespace Retrace.Message

open Retrace.Expr

-- ---------------------------------------------------------------------------
-- Prompts
-- ---------------------------------------------------------------------------

/-- A prompt without regard to where it stands. -/
def IsPrompt (w : List Char) : Prop :=
  ∃ thread number, w = thread ++ '[' :: (number ++ "] ".toList) ∧
    (thread ≠ [] ∧ ∀ c ∈ thread, inThread c = true) ∧
    (number ≠ [] ∧ ∀ c ∈ number, Text.isDigit c = true)

theorem covers_prompt {previous : Option Char} {w : List Char} :
    prompt.expr.Covers previous w ↔ (previous = none ∨ previous = some '\n') ∧ IsPrompt w := by
  simp only [prompt, covers_seq, covers_lit, covers_many1]
  constructor
  · rintro ⟨_, _, rfl, ⟨_, number, rfl, ⟨_, _, rfl, ⟨_, thread, rfl, ⟨start, rfl⟩, ht⟩, rfl⟩, hn⟩, rfl⟩
    exact ⟨start, thread, number, by simp, ht, hn⟩
  · rintro ⟨start, thread, number, rfl, ht, hn⟩
    exact ⟨_, _, by simp, ⟨_, number, rfl, ⟨_, _, rfl, ⟨[], thread, rfl, ⟨start, rfl⟩, ht⟩, rfl⟩, hn⟩, rfl⟩

/-- A closing bracket ends the number of a prompt, and there is no other one. -/
theorem IsPrompt.cut {w : List Char} (h : IsPrompt w) :
    ∃ v, ']' ∉ v ∧ w = v ++ "] ".toList := by
  obtain ⟨thread, number, rfl, ⟨-, ht⟩, -, hn⟩ := h
  refine ⟨thread ++ '[' :: number, ?_, by simp⟩
  simp only [List.mem_append, List.mem_cons, not_or]
  refine ⟨fun h => ?_, by decide, fun h => ?_⟩
  · exact absurd (ht _ h) (by decide)
  · exact absurd (hn _ h) (by decide)

/-- A prompt is on one line. -/
theorem IsPrompt.no_feed {w : List Char} (h : IsPrompt w) : '\n' ∉ w := by
  obtain ⟨thread, number, rfl, ⟨-, ht⟩, -, hn⟩ := h
  have thread_free : '\n' ∉ thread := fun h => absurd (ht _ h) (by decide)
  have number_free : '\n' ∉ number := fun h => absurd (hn _ h) (by decide)
  simp [thread_free, number_free]

theorem prompt_settled : prompt.expr.Settled := by
  intro previous a w b outer inner
  obtain ⟨v, hv, outer_eq⟩ := (covers_prompt.1 outer).2.cut
  obtain ⟨u, -, rfl⟩ := (covers_prompt.1 inner).2.cut
  -- Both texts are cut at the only closing bracket.
  have cut : v ++ ']' :: [' '] = (a ++ u) ++ ']' :: ' ' :: b := by simpa using outer_eq.symm
  obtain ⟨-, -, tails⟩ := (List.append_cons_inj_of_notMem hv (by simp)).1 cut
  exact (List.cons.inj tails).2.symm

-- ---------------------------------------------------------------------------
-- Headers
-- ---------------------------------------------------------------------------

/-- The texts that start a header. -/
inductive IsTitle : List Char → Prop where
  | exception : IsTitle "Exception occurred:".toList
  | enteredBefore (blank : List Char) (h : blank = " ".toList ∨ blank = []) :
    IsTitle ("Method entered:".toList ++ blank ++ "\r\nStep completed:".toList)
  | completed : IsTitle "Step completed:".toList
  | entered : IsTitle "Method entered: ".toList
  | exited (v : List Char) (nonempty : v ≠ []) (free : ∀ c ∈ v, but [',', '\r', '\n'] c = true) :
    IsTitle ("Method exited: ".toList ++ v ++ ", ".toList)

/-- A title with the rest of its line, which is not empty. -/
def IsHeader (w : List Char) : Prop :=
  ∃ title line, w = title ++ line ++ "\r\n".toList ∧ IsTitle title ∧
    line ≠ [] ∧ ∀ c ∈ line, inLine c = true

theorem covers_stepHeader {previous : Option Char} {w : List Char} :
    stepHeader.expr.Covers previous w ↔ IsHeader w := by
  simp only [stepHeader, firstOf, covers_seq, covers_lit, covers_many1, covers_group, covers_alt,
    covers_opt]
  constructor
  · rintro ⟨_, _, rfl, ⟨title, line, rfl, ht, hl⟩, rfl⟩
    refine ⟨title, line, rfl, ?_, hl⟩
    rcases ht with rfl | ⟨_, _, rfl, ⟨_, blank, rfl, rfl, hb⟩, rfl⟩ | rfl | rfl |
      ⟨_, _, rfl, ⟨_, v, rfl, rfl, nonempty, free⟩, rfl⟩
    · exact .exception
    · exact .enteredBefore blank hb
    · exact .completed
    · exact .entered
    · exact .exited v nonempty free
  · rintro ⟨title, line, rfl, ht, hl⟩
    refine ⟨_, _, rfl, ⟨title, line, rfl, ?_, hl⟩, rfl⟩
    cases ht with
    | exception => exact .inl rfl
    | enteredBefore blank hb =>
      exact .inr (.inl ⟨_, _, rfl, ⟨_, blank, rfl, rfl, hb⟩, rfl⟩)
    | completed => exact .inr (.inr (.inl rfl))
    | entered => exact .inr (.inr (.inr (.inl rfl)))
    | exited v nonempty free =>
      exact .inr (.inr (.inr (.inr ⟨_, _, rfl, ⟨_, v, rfl, rfl, nonempty, free⟩, rfl⟩)))

/-- The announcement of a method entry on a line of its own. -/
def IsAnnouncement (first : List Char) : Prop :=
  ∃ blank, (blank = " ".toList ∨ blank = []) ∧ first = "Method entered:".toList ++ blank

/-- A title is on one line, or a method entry is announced on the line before. -/
theorem IsTitle.lines {t : List Char} (h : IsTitle t) :
    '\n' ∉ t ∨ ∃ first, IsAnnouncement first ∧ t = first ++ "\r\nStep completed:".toList := by
  cases h with
  | exception => exact .inl (by decide)
  | enteredBefore blank hb => exact .inr ⟨_, ⟨blank, hb, rfl⟩, rfl⟩
  | completed => exact .inl (by decide)
  | entered => exact .inl (by decide)
  | exited v nonempty free =>
    refine .inl fun h => ?_
    simp only [List.mem_append] at h
    rcases h with (h | h) | h
    · exact absurd h (by decide)
    · exact absurd (free _ h) (by decide)
    · exact absurd h (by decide)

theorem IsAnnouncement.no_feed {first : List Char} (h : IsAnnouncement first) : '\n' ∉ first := by
  obtain ⟨blank, rfl | rfl, rfl⟩ := h <;> decide

/-- No title lies within an announcement and leaves something of it. -/
theorem IsTitle.not_within {a t b first : List Char} (h : IsTitle t) (hb : b ≠ [])
    (hf : IsAnnouncement first) : a ++ t ++ b ≠ first := by
  obtain ⟨blank, hblank, rfl⟩ := hf
  intro within
  have lengths := congrArg List.length within
  have positive := List.length_pos_iff.2 hb
  have short : blank.length ≤ 1 := by rcases hblank with rfl | rfl <;> simp
  cases h with
  | exception => simp at lengths; omega
  | enteredBefore blank' hb' => simp at lengths; omega
  | completed =>
    have inside : "Step completed:".toList <:+: "Method entered:".toList ++ blank := ⟨a, b, within⟩
    rcases hblank with rfl | rfl <;> exact absurd inside (by decide +kernel)
  | entered => simp at lengths; omega
  | exited v nonempty free => simp at lengths; omega

theorem stepHeader_settled : stepHeader.expr.Settled := by
  intro previous a w b outer inner
  obtain ⟨title, line, outer_eq, ht, -, hl⟩ := covers_stepHeader.1 outer
  obtain ⟨title', line', rfl, ht', nonempty, -⟩ := covers_stepHeader.1 inner
  have no_feed : '\n' ∉ line := fun h => absurd (hl _ h) (by decide)
  rcases ht.lines with one | ⟨first, hf, rfl⟩
  · -- The only line feed is the last character, and `w` ends with it.
    have cut : (title ++ line ++ ['\r']) ++ '\n' :: [] =
        (a ++ title' ++ line' ++ ['\r']) ++ '\n' :: b := by simpa using outer_eq.symm
    have absent : '\n' ∉ title ++ line ++ ['\r'] := by simp [one, no_feed]
    exact ((List.append_cons_inj_of_notMem absent (by simp)).1 cut).2.2.symm
  · -- There are two line feeds; `w` cannot end with the first one.
    have cut : (first ++ "\r\nStep completed:".toList ++ line ++ ['\r']) ++ '\n' :: [] =
        (a ++ title' ++ line' ++ ['\r']) ++ '\n' :: b := by simpa using outer_eq.symm
    rcases List.append_eq_append_iff.1 cut with ⟨c, -, hc⟩ | ⟨c, hc, tails⟩
    · cases c <;> simp_all
    · cases c with
      | nil => simpa using tails.symm
      | cons d c =>
        obtain ⟨rfl, rfl⟩ := List.cons.inj tails
        have early : (first ++ ['\r']) ++ '\n' :: ("Step completed:".toList ++ line ++ ['\r']) =
            (a ++ title' ++ line' ++ ['\r']) ++ '\n' :: c := by simpa using hc
        have absent : '\n' ∉ first ++ ['\r'] := by simp [hf.no_feed]
        have absent' : '\n' ∉ "Step completed:".toList ++ line ++ ['\r'] := by simp [no_feed]
        have heads := ((List.append_cons_inj_of_notMem absent absent').1 early).1
        exact absurd (List.append_cancel_right heads).symm (ht'.not_within nonempty hf)

end Retrace.Message
