import Retrace.Proofs.Value.Elements

/-!
# Elements of any text

Braces need not be balanced and quotes need not be closed: each element of a text is its own only
element, and all but the last one leave the scan where it began. So elements are cut apart again if
they are joined with commas, whatever blanks stand around these.
-/

namespace Retrace.Elements

open Text (trim isBlank)

variable {scan after : Scan} {c : Char} {s t u v : List Char} {elements : List (List Char)}

-- ---------------------------------------------------------------------------
-- What a scan passes
-- ---------------------------------------------------------------------------

theorem passes_cons_iff :
    Passes scan (c :: s) after ↔ scan.separates c = false ∧ Passes (scan.next c) s after := by
  constructor
  · intro h
    cases h with
    | cons inside later => exact ⟨inside, later⟩
  · rintro ⟨inside, later⟩
    exact .cons inside later

theorem passes_append_iff :
    Passes scan (s ++ t) after ↔ ∃ middle, Passes scan s middle ∧ Passes middle t after := by
  constructor
  · intro h
    induction s generalizing scan with
    | nil => exact ⟨scan, .nil, h⟩
    | cons c s ih =>
      obtain ⟨inside, later⟩ := passes_cons_iff.1 h
      obtain ⟨middle, first, second⟩ := ih later
      exact ⟨middle, .cons inside first, second⟩
  · rintro ⟨middle, first, second⟩
    exact first.append second

theorem forall_comma_cons_iff :
    (∀ u v, c :: s = u ++ ',' :: v → scan.run u ≠ .top) ↔
      scan.separates c = false ∧ ∀ u v, s = u ++ ',' :: v → (scan.next c).run u ≠ .top := by
  constructor
  · intro h
    refine ⟨?_, fun u v cut => h (c :: u) v (by rw [cut, List.cons_append])⟩
    by_cases comma : c = ','
    · have outside : scan ≠ .top := by
        rw [comma] at h
        exact h [] s rfl
      simp [Scan.separates, outside]
    · simp [Scan.separates, comma]
  · rintro ⟨inside, later⟩ u v cut
    cases u with
    | nil =>
      obtain ⟨rfl, -⟩ := List.cons.inj cut
      have outside : scan ≠ .top := by simpa [Scan.separates] using inside
      exact outside
    | cons d u =>
      obtain ⟨rfl, rest⟩ := List.cons.inj cut
      exact later u v rest

/-- A scan passes a text if it meets no comma outside of quotes and braces. -/
theorem passes_iff :
    Passes scan s after ↔
      scan.run s = after ∧ ∀ u v, s = u ++ ',' :: v → scan.run u ≠ .top := by
  induction s generalizing scan with
  | nil =>
    constructor
    · rintro ⟨⟩
      exact ⟨rfl, by simp⟩
    · rintro ⟨rfl, -⟩
      exact .nil
  | cons c s ih =>
    rw [passes_cons_iff, ih, forall_comma_cons_iff]
    exact and_left_comm

-- ---------------------------------------------------------------------------
-- Blanks
-- ---------------------------------------------------------------------------

theorem isDelimiter_of_isBlank (blank : isBlank c = true) : isDelimiter c = false := by
  by_contra delimiter
  simp only [isDelimiter, List.mem_cons, List.not_mem_nil, or_false, Bool.not_eq_false,
    decide_eq_true_eq] at delimiter
  rcases delimiter with rfl | rfl | rfl | rfl | rfl <;> exact absurd blank (by decide)

/-- No blank closes the quote that is open, if there is one. -/
def Scan.Quoting (scan : Scan) : Prop :=
  ∀ q, scan.quote = some q → isBlank q = false

theorem Scan.quoting_top : Scan.top.Quoting := by
  simp [Quoting, top]

theorem Scan.Quoting.next (h : scan.Quoting) (c : Char) : (scan.next c).Quoting := by
  intro q opened
  unfold Scan.next at opened
  split at opened
  · split at opened
    · simp at opened
    · exact h q opened
  · split at opened
    · rename_i quote
      obtain rfl : c = q := by simpa using opened
      rcases quote with rfl | rfl <;> decide
    · split at opened
      · exact h q opened
      · split at opened
        · exact h q opened
        · exact h q opened

theorem Passes.quoting (h : Passes scan s after) (before : scan.Quoting) : after.Quoting := by
  induction h with
  | nil => exact before
  | cons _ _ ih => exact ih (before.next _)

theorem Scan.Quoting.next_blank (h : scan.Quoting) (blank : isBlank c = true) :
    scan.separates c = false ∧ scan.next c = scan := by
  obtain ⟨inside, stays⟩ := scan.next_of_plain (isDelimiter_of_isBlank blank)
  refine ⟨inside, ?_⟩
  cases opened : scan.quote with
  | none => exact stays opened
  | some q =>
    have other : c ≠ q := by
      rintro rfl
      exact absurd blank (by simp [h c opened])
    simp [Scan.next, opened, other]

/-- Blanks leave a scan where it is. -/
theorem Scan.Quoting.passes_blanks_iff (h : scan.Quoting) (blanks : ∀ c ∈ s, isBlank c = true) :
    Passes scan s after ↔ scan = after := by
  induction s with
  | nil =>
    constructor
    · rintro ⟨⟩
      rfl
    · rintro rfl
      exact .nil
  | cons c s ih =>
    obtain ⟨blank, others⟩ := List.forall_mem_cons.1 blanks
    obtain ⟨inside, stays⟩ := h.next_blank blank
    rw [passes_cons_iff, stays, ih others]
    exact and_iff_right inside

/-- Trimming a text does not change where its scan ends. -/
theorem Passes.trim (h : Passes .top s after) : Passes .top (trim s) after := by
  obtain ⟨u, v, cut, first, last⟩ := Text.exists_trim s
  have whole : Passes .top (u ++ Text.trim s ++ v) after := cut ▸ h
  obtain ⟨ending, front, back⟩ := passes_append_iff.1 whole
  obtain ⟨start, leading, middle⟩ := passes_append_iff.1 front
  obtain rfl := (Scan.quoting_top.passes_blanks_iff first).1 leading
  obtain rfl := ((middle.quoting Scan.quoting_top).passes_blanks_iff last).1 back
  exact middle

-- ---------------------------------------------------------------------------
-- Elements of a text
-- ---------------------------------------------------------------------------

/-- Texts without separators that are scanned one after the other. All but the last one end outside
of quotes and braces, where a comma can follow. -/
inductive Chain : Scan → List (List Char) → Prop where
  | nil {scan : Scan} : Chain scan []
  | last {scan after : Scan} {s : List Char} (passes : Passes scan s after) : Chain scan [s]
  | cons {scan : Scan} {s : List Char} {later : List (List Char)} (passes : Passes scan s .top)
      (others : Chain .top later) : Chain scan (s :: later)

theorem Chain.consFirst (inside : scan.separates c = false) {later : List (List Char)}
    (h : Chain (scan.next c) (s :: later)) : Chain scan ((c :: s) :: later) := by
  cases h with
  | last passes => exact .last (.cons inside passes)
  | cons passes others => exact .cons (.cons inside passes) others

theorem chain_pieces (scan : Scan) (s : List Char) : Chain scan (pieces scan s) := by
  induction s generalizing scan with
  | nil => exact .last .nil
  | cons c s ih =>
    cases cut : scan.separates c with
    | true =>
      obtain rfl : scan = .top := by
        simp only [Scan.separates, Bool.and_eq_true, decide_eq_true_eq] at cut
        exact cut.2
      simp only [pieces, cut, if_true]
      exact .cons .nil (ih .top)
    | false =>
      obtain ⟨first, others, found⟩ := exists_pieces (scan.next c) s
      have later := ih (scan.next c)
      rw [found] at later
      simp only [pieces, cut, found]
      exact later.consFirst cut

/-- Trimming the texts of a chain and leaving out those that are blank makes a chain again. -/
theorem Chain.trimmed (h : Chain .top elements) :
    Chain .top ((elements.map trim).filter (· ≠ [])) := by
  induction elements with
  | nil => exact .nil
  | cons s later ih =>
    rw [List.map_cons, List.filter_cons]
    cases h with
    | last passes =>
      split
      · exact .last passes.trim
      · exact .nil
    | cons passes others =>
      split
      · exact .cons passes.trim (ih others)
      · exact ih others

theorem chain_split (b : List Char) : Chain .top (split b) :=
  (chain_pieces .top b).trimmed

theorem Chain.passes_of_mem (h : Chain .top elements) {e : List Char} (he : e ∈ elements) :
    ∃ after, Passes .top e after := by
  induction elements with
  | nil => simp at he
  | cons s later ih =>
    cases h with
    | last passes =>
      obtain rfl := List.mem_singleton.1 he
      exact ⟨_, passes⟩
    | cons passes others =>
      rcases List.mem_cons.1 he with rfl | he
      · exact ⟨_, passes⟩
      · exact ih others he

/-- The elements of a text are not empty and have no blanks at their ends. -/
theorem trimmed_of_mem_split {b p : List Char} (h : p ∈ split b) : p ≠ [] ∧ trim p = p := by
  obtain ⟨found, nonempty⟩ := List.mem_filter.1 h
  obtain ⟨piece, -, rfl⟩ := List.mem_map.1 found
  exact ⟨by simpa using nonempty, Text.trim_trim piece⟩

-- ---------------------------------------------------------------------------
-- Joining with blanks
-- ---------------------------------------------------------------------------

/-- The text has the elements in this order, a comma between any two of them, and any blanks around
the commas. -/
inductive Spaced : List (List Char) → List Char → Prop where
  | nil : Spaced [] []
  | single (e : List Char) : Spaced [e] e
  | cons {e e' u v t : List Char} {later : List (List Char)}
      (before : ∀ c ∈ u, isBlank c = true) (behind : ∀ c ∈ v, isBlank c = true)
      (others : Spaced (e' :: later) t) : Spaced (e :: e' :: later) (e ++ u ++ ',' :: (v ++ t))

theorem split_of_passes (h : Passes .top s after) (nonempty : s ≠ []) (trimmed : trim s = s) :
    split s = [s] := by
  simp [split, pieces_of_passes h, trimmed, nonempty]

theorem split_append_comma (h : Passes .top s .top) (nonempty : trim s ≠ []) (t : List Char) :
    split (s ++ ',' :: t) = trim s :: split t := by
  simp [split, pieces_append_comma h, nonempty]

theorem split_blanks_append (blanks : ∀ c ∈ u, isBlank c = true) (t : List Char) :
    split (u ++ t) = split t := by
  have passes : Passes .top u .top := (Scan.quoting_top.passes_blanks_iff blanks).2 rfl
  obtain ⟨first, others, found⟩ := exists_pieces .top t
  have joined : pieces .top (u ++ t) = (u ++ first) :: others := by
    rw [pieces_append passes, found, foldr_consFirst]
  rw [split, split, joined, found, List.map_cons, List.map_cons, Text.trim_blanks_append blanks]

/-- A chain of trimmed texts is cut apart again, however it was joined. -/
theorem split_of_spaced (chain : Chain .top elements)
    (trimmed : ∀ e ∈ elements, e ≠ [] ∧ trim e = e) (spaced : Spaced elements t) :
    split t = elements := by
  induction spaced with
  | nil => rfl
  | single e =>
    obtain ⟨after, passes⟩ := chain.passes_of_mem (.head _)
    obtain ⟨nonempty, ends⟩ := trimmed e (.head _)
    exact split_of_passes passes nonempty ends
  | @cons e e' u v t later before behind others ih =>
    obtain ⟨⟨nonempty, ends⟩, rest⟩ := List.forall_mem_cons.1 trimmed
    cases chain with
    | cons passes chain =>
      -- Blanks before the comma are scanned with the element, those behind it with what follows.
      have room : Passes .top (e ++ u) .top :=
        passes.append ((Scan.quoting_top.passes_blanks_iff before).2 rfl)
      have cut : trim (e ++ u) = e := by rw [Text.trim_append_blanks before, ends]
      rw [split_append_comma room (by rwa [cut]), cut, split_blanks_append behind, ih chain rest]

theorem spaced_joined (elements : List (List Char)) : Spaced elements (joined elements) := by
  induction elements with
  | nil => exact .nil
  | cons e later ih =>
    cases later with
    | nil =>
      rw [joined_singleton]
      exact .single e
    | cons e' later =>
      rw [joined_cons_cons]
      simpa using Spaced.cons (u := []) (v := [' ']) (by simp) (by simp [isBlank]) ih

theorem chain_of_elements (h : ∀ e ∈ elements, Element e) : Chain .top elements := by
  induction elements with
  | nil => exact .nil
  | cons e later ih =>
    obtain ⟨first, rest⟩ := List.forall_mem_cons.1 h
    exact .cons first.passes (ih rest)

/-- Elements with commas between them are the elements again. -/
theorem split_joined (h : ∀ e ∈ elements, Element e) : split (joined elements) = elements :=
  split_of_spaced (chain_of_elements h) (fun e he => ⟨(h e he).nonempty, (h e he).trimmed⟩)
    (spaced_joined elements)

/-- Splitting is stable. An element of any text is not empty, has no blanks at its ends and is not
split further, and the elements joined with commas and any blanks around these are the elements
again; and so are texts like these, each of which ends outside of quotes and braces and has no
comma there. -/
theorem split_stable :
    (∀ b, (∀ p ∈ split b, p ≠ [] ∧ trim p = p ∧ split p = [p]) ∧
      ∀ t, Spaced (split b) t → split t = split b) ∧
    ∀ elements : List (List Char),
      (∀ e ∈ elements, e ≠ [] ∧ trim e = e ∧ Scan.run .top e = .top ∧
        ∀ u v, e = u ++ ',' :: v → Scan.run .top u ≠ .top) →
      split (joined elements) = elements := by
  refine ⟨fun b => ⟨fun p hp => ?_, fun t spaced => ?_⟩, fun elements h => ?_⟩
  · obtain ⟨after, passes⟩ := (chain_split b).passes_of_mem hp
    obtain ⟨nonempty, trimmed⟩ := trimmed_of_mem_split hp
    exact ⟨nonempty, trimmed, split_of_passes passes nonempty trimmed⟩
  · exact split_of_spaced (chain_split b) (fun p hp => trimmed_of_mem_split hp) spaced
  · refine split_joined fun e he => ?_
    obtain ⟨nonempty, trimmed, ends, commas⟩ := h e he
    exact ⟨nonempty, trimmed, passes_iff.2 ⟨ends, commas⟩⟩

/-- A brace that closes nothing, an inner array with a quoted brace, nothing between two commas, and
a quote that stays open. -/
def stray : List Char :=
  " \x7d , \x7b1, ',\x7d', 2\x7d ,, 'a , b".toList

/-- The elements of `stray` with other blanks around the commas. -/
def strayJoined : List Char :=
  "\x7d,\t \x7b1, ',\x7d', 2\x7d  ,\n'a , b".toList

theorem split_stray :
    split stray = ["\x7d".toList, "\x7b1, ',\x7d', 2\x7d".toList, "'a , b".toList] ∧
      split "\x7b1, ',\x7d', 2\x7d".toList = ["\x7b1, ',\x7d', 2\x7d".toList] ∧
      Spaced (split stray) strayJoined ∧ split strayJoined = split stray ∧
      split (joined ["\"a,b\"".toList, "c".toList]) = ["\"a,b\"".toList, "c".toList] := by
  obtain ⟨whole, back⟩ := split_stable
  obtain ⟨each, again⟩ := whole stray
  have elements : split stray =
      ["\x7d".toList, "\x7b1, ',\x7d', 2\x7d".toList, "'a , b".toList] := by decide
  have spaced : Spaced (split stray) strayJoined := by
    rw [elements]
    exact .cons (u := []) (v := "\t ".toList) (by simp) (by simp [isBlank])
      (.cons (u := "  ".toList) (v := "\n".toList) (by simp [isBlank]) (by simp [isBlank])
        (.single _))
  refine ⟨elements, (each _ (by rw [elements]; decide)).2.2, spaced, again _ spaced, back _ ?_⟩
  have quoted : Passes .top "\"a,b\"".toList .top :=
    balanced_quoted (s := "a,b".toList) (by simp) 0
  have plain : Passes .top "c".toList .top := balanced_of_plain (by simp [isDelimiter]) 0
  intro e he
  rcases List.mem_cons.1 he with rfl | he
  · exact ⟨by decide, by decide, passes_iff.1 quoted⟩
  · obtain rfl := List.mem_singleton.1 he
    exact ⟨by decide, by decide, passes_iff.1 plain⟩

end Retrace.Elements
