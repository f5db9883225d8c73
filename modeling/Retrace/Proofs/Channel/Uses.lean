import Retrace.Proofs.Pattern.Fits

/-!
# Feeding and taking in any order

Text arrives, and patterns take what they match together with all that stands
before it. However the two alternate, what was taken and what still waits make up
what arrived, and each match is the leftmost one in what waited.
-/

namespace Retrace

/-- All the text that a match takes. -/
def Expectation.text (found : Expectation) : String :=
  found.before ++ found.matched

namespace Buffer

/-- A use of a buffer: text arrives, or a pattern is looked for. -/
inductive Use where
  | feed (text : String)
  | take (p : Pattern)

/-- The text that arrives with a use. -/
def Use.arriving : Use → String
  | .feed text => text
  | .take _ => ""

/-- What a use takes, and the buffer after it. A pattern that is not found takes nothing. -/
def use (b : Buffer) : Use → List Expectation × Buffer
  | .feed text => ([], b.feed text)
  | .take p =>
    match b.take? p with
    | some (found, b') => ([found], b')
    | none => ([], b)

/-- What uses one after another take, and the buffer after them. -/
def uses (b : Buffer) : List Use → List Expectation × Buffer
  | [] => ([], b)
  | u :: us =>
    let (now, b) := b.use u
    let (later, b) := b.uses us
    (now ++ later, b)

/-- A pattern takes a text up to the end of a piece that it fits, and it fits none that begins
earlier. -/
structure Takes (p : Pattern) (pending : List Char) (found : Expectation) (left : List Char) :
    Prop where
  text_eq : found.before.toList ++ (found.matched.toList ++ left) = pending
  fits : p.expr.Fits found.before.toList.getLast? found.matched.toList left
  leftmost : ∀ early w rest, early ++ (w ++ rest) = pending →
    p.expr.Fits early.getLast? w rest → found.before.toList.length ≤ early.length

variable {b b' : Buffer} {p : Pattern} {found : Expectation} {us : List Use}

-- ---------------------------------------------------------------------------
-- One use
-- ---------------------------------------------------------------------------

theorem use_take_of_some (h : b.take? p = some (found, b')) : b.use (.take p) = ([found], b') := by
  simp [use, h]

theorem use_take_of_none (h : b.take? p = none) : b.use (.take p) = ([], b) := by
  simp [use, h]

theorem takes_of_take? (h : b.take? p = some (found, b')) :
    Takes p b.pending found b'.pending := by
  obtain ⟨x, picks, matched, rest⟩ := picks_of_take? h
  refine ⟨?_, ?_, fun early w later covered fits => picks.leftmost covered fits⟩
  · rw [matched, rest, picks.text_eq]
  · rw [matched, rest]
    exact Expr.fits_of_mem_ways (List.mem_of_mem_head? picks.first_eq)

theorem take?_eq_none_iff_fits : b.take? p = none ↔
    ∀ early w rest, early ++ (w ++ rest) = b.pending → ¬ p.expr.Fits early.getLast? w rest := by
  rw [take?_eq_none_iff, Pattern.find?_eq_none_iff_fits]

/-- What a use takes and what it leaves make up what waited and what arrived. -/
theorem text_use (b : Buffer) (u : Use) :
    String.join ((b.use u).1.map Expectation.text) ++ String.ofList (b.use u).2.pending =
      String.ofList b.pending ++ u.arriving := by
  cases u with
  | feed text => simp [use, feed, Use.arriving]
  | take p =>
    cases h : b.take? p with
    | none => simp [use_take_of_none h, Use.arriving]
    | some r =>
      obtain ⟨found, b'⟩ := r
      have whole : b.pending = found.before.toList ++ found.matched.toList ++ b'.pending :=
        text_of_take? h
      simp [use_take_of_some h, Use.arriving, Expectation.text, whole, String.append_assoc]

-- ---------------------------------------------------------------------------
-- Any number of uses
-- ---------------------------------------------------------------------------

theorem uses_cons (b : Buffer) (u : Use) (us : List Use) :
    b.uses (u :: us) =
      ((b.use u).1 ++ ((b.use u).2.uses us).1, ((b.use u).2.uses us).2) :=
  rfl

theorem text_uses (b : Buffer) (us : List Use) :
    String.join ((b.uses us).1.map Expectation.text) ++ String.ofList (b.uses us).2.pending =
      String.ofList b.pending ++ String.join (us.map Use.arriving) := by
  induction us generalizing b with
  | nil => simp [uses]
  | cons u us ih =>
    rw [uses_cons, List.map_append, String.join_append, String.append_assoc, ih,
      ← String.append_assoc, text_use, String.append_assoc, List.map_cons, String.join_cons]

/-- In any order of arriving text and patterns that are looked for, starting with nothing, what was
taken and what waits make up what arrived. Then a pattern that fits nowhere in what waits, and no
other, takes nothing and changes nothing, and any other one takes the leftmost piece that it
fits. -/
theorem uses_conserve {taken : List Expectation} (h : ({} : Buffer).uses us = (taken, b)) :
    String.join (taken.map Expectation.text) ++ String.ofList b.pending =
      String.join (us.map Use.arriving) ∧
    ∀ p : Pattern,
      (b.take? p = none ↔ ∀ early w rest, early ++ (w ++ rest) = b.pending →
        ¬ p.expr.Fits early.getLast? w rest) ∧
      (b.take? p = none → b.use (.take p) = ([], b)) ∧
      ∀ found b', b.take? p = some (found, b') →
        b.use (.take p) = ([found], b') ∧ Takes p b.pending found b'.pending := by
  refine ⟨?_, fun p => ⟨take?_eq_none_iff_fits, use_take_of_none, fun found b' taken =>
    ⟨use_take_of_some taken, takes_of_take? taken⟩⟩⟩
  have whole := text_uses {} us
  rw [h] at whole
  simpa using whole

/-- Two prompts, the first one behind a letter of two bytes, then a pattern that is not there and
one that fits the empty text. -/
theorem uses_around_prompt :
    let prompt : Pattern := ⟨"> ", .lit "> "⟩
    let anything : Pattern := ⟨"z?", .opt (.lit "z")⟩
    let us : List Use := [.feed "é> \r", .take prompt, .take prompt, .feed "\nmain[1] é",
      .take anything]
    let b : Buffer := { pending := "\r\nmain[1] é".toList }
    ({} : Buffer).uses us = ([⟨"é", "> "⟩, ⟨"", ""⟩], b) ∧
      "é" ++ "> " ++ "\r\nmain[1] é" = String.join (us.map Use.arriving) ∧
      b.take? prompt = none ∧ b.use (.take prompt) = ([], b) ∧
      b.take? anything = some (⟨"", ""⟩, b) ∧ Takes anything b.pending ⟨"", ""⟩ b.pending := by
  intro prompt anything us b
  have run : ({} : Buffer).uses us = ([⟨"é", "> "⟩, ⟨"", ""⟩], b) := by decide +kernel
  obtain ⟨whole, next⟩ := uses_conserve run
  have missing : b.take? prompt = none := by decide +kernel
  have empty : b.take? anything = some (⟨"", ""⟩, b) := by decide +kernel
  exact ⟨run, whole, missing, (next prompt).2.1 missing, empty, ((next anything).2.2 _ _ empty).2⟩

end Buffer

end Retrace
