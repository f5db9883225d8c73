import Retrace.Proofs.Debugger.Location

/-!
# The parts of an event

Whatever text is read as a step event, the parts of the event agree with each
other. The place gives thread, class and method together or not at all, and a
source line that is found afterwards changes the line and its text only.
-/

namespace Retrace.StepEvent

open Message Retrace.Expr

variable {e : StepEvent} {header listing t : List Char} {entered : Bool}

/-- What holds between the parts of an event. -/
structure Coherent (e : StepEvent) : Prop where
  thread_isSome : e.thread.isSome = e.label.isSome
  method_isSome : e.method.isSome = e.label.isSome
  unplaced : e.label = none → e.kind = .step ∧ e.bci = none ∧ e.returned = none
  returned_iff : e.returned.isSome = true ↔ e.kind = .methodExit
  /-- The label is the class and the method. -/
  named : ∀ label, e.label = some label → ∃ className method,
    e.className? = some className ∧ e.method = some method ∧
      label = className ++ "." ++ method ++ "()" ∧ method ≠ "" ∧ '.' ∉ method.toList
  /-- The source is text on one line. -/
  shown : ∀ source, e.instruction = some source →
    source ≠ "" ∧ '\r' ∉ source.toList ∧ '\n' ∉ source.toList

-- ---------------------------------------------------------------------------
-- What is found
-- ---------------------------------------------------------------------------

/-- A place is a title, a thread, a class and method, and two numbers, which end it on one line. -/
theorem exists_place {previous : Option Char} {x : Way}
    (h : x ∈ stepLocation.expr.ways previous t) :
    ∃ title ∈ titleExpr.ways previous t, ∃ thread label numbers,
      x.text = title.text ++ (" \"thread=".toList ++ (thread ++ ("\", ".toList ++
        (label ++ (", line=".toList ++ numbers))))) ∧ '\n' ∉ numbers ∧
      x.group? 3 = some thread ∧ x.group? 4 = some label ∧
      ∃ className method, label = className ++ '.' :: method ++ "()".toList ∧ method ≠ [] ∧
        '.' ∉ method ∧ x.group? 5 = some ('.' :: method) := by
  simp only [stepLocation_expr, ways_assoc] at h
  obtain ⟨title, htitle, _, after_title, rfl⟩ := exists_of_mem_ways_seq h
  obtain ⟨_, hquote, _, from_thread, rfl⟩ := exists_of_mem_ways_seq after_title
  obtain ⟨thread, hthread, _, after_thread, rfl⟩ := exists_of_mem_ways_seq from_thread
  obtain ⟨comma, hcomma, _, from_label, rfl⟩ := exists_of_mem_ways_seq after_thread
  obtain ⟨label, hlabel, numbers, hnumbers, rfl⟩ := exists_of_mem_ways_seq from_label
  obtain ⟨className, method, text_eq, nonempty, free, four, five⟩ := exists_label hlabel
  have three := group?_of_mem_group hthread
  have quote_text := covers_lit.1 (covers_of_mem_ways rfl hquote)
  have comma_text := covers_lit.1 (covers_of_mem_ways rfl hcomma)
  have covered := covers_of_mem_ways rfl hnumbers
  simp only [covers_seq, covers_lit, covers_group, covers_many1] at covered
  obtain ⟨_, _, numbers_text, rfl, line, _, rfl, ⟨-, hline⟩, _, bci, rfl, rfl, -, hbci⟩ := covered
  -- The numbers behind the label are remembered under other groups.
  have none_of_numbers (n : Nat) (small : n < 6) : numbers.group? n = none := by
    refine group?_eq_none hnumbers fun h => ?_
    have large : ∀ k ∈ [6, 7], 6 ≤ k := by decide
    exact absurd small (Nat.not_lt_of_le (large n h))
  have none_of_label : label.group? 3 = none := group?_eq_none hlabel (by decide)
  have none_of_comma : comma.group? 3 = none := group?_eq_none hcomma (by decide)
  refine ⟨title, htitle, thread.text, label.text, line ++ (" bci=".toList ++ bci), ?_, ?_, ?_, ?_,
    className, method, text_eq, nonempty, free, ?_⟩
  · simp only [Way.andThen, quote_text, comma_text, numbers_text, List.append_assoc]
  · have line_free : '\n' ∉ line := fun feed => absurd (hline _ feed) (by decide)
    have bci_free : '\n' ∉ bci := fun feed => absurd (hbci _ feed) (by decide)
    simp [line_free, bci_free]
  · simp [none_of_numbers, none_of_label, none_of_comma, three]
  · simp [none_of_numbers, four]
  · simp [none_of_numbers, five]

/-- Wherever a place is found it has a thread, and a class with a method. -/
theorem groups_of_find?_stepLocation {m : Match} (h : stepLocation.find? t = some m) :
    ∃ thread className method, m.group? 3 = some thread ∧
      m.group? 4 = some (className ++ '.' :: method ++ "()".toList) ∧
      m.group? 5 = some ('.' :: method) ∧ method ≠ [] ∧ '.' ∉ method := by
  obtain ⟨before, x, picks, rfl⟩ := Pattern.exists_picks_of_find? h
  obtain ⟨-, -, thread, _, -, -, -, three, four, className, method, rfl, nonempty, free, five⟩ :=
    exists_place (List.mem_of_mem_head? picks.first_eq)
  exact ⟨thread, className, method, three, four, five, nonempty, free⟩

/-- Wherever a source line is found it has some text. -/
theorem group_of_find?_sourceListing {m : Match} (h : sourceListing.find? t = some m) :
    ∃ source, m.group? 2 = some source ∧ source ≠ [] ∧ ∀ c ∈ source, inLine c = true := by
  obtain ⟨before, x, picks, rfl⟩ := Pattern.exists_picks_of_find? h
  obtain ⟨front, -, source, hsource, rfl⟩ :=
    exists_of_mem_ways_seq (List.mem_of_mem_head? picks.first_eq)
  have covered := covers_of_mem_ways rfl hsource
  rw [covers_group, covers_many1] at covered
  refine ⟨source.text, ?_, covered⟩
  change Way.group? _ 2 = _
  simp [group?_of_mem_group hsource]

theorem className?_eq {className method : List Char} (free : '.' ∉ method)
    (h : e.label = some (.ofList (className ++ '.' :: method ++ "()".toList))) :
    e.className? = some (.ofList className) := by
  have label : (String.ofList (className ++ '.' :: method ++ "()".toList)).toList =
      className ++ '.' :: method ++ "()".toList := String.toList_ofList
  have cut := Text.cutAtLast_append_of_notMem free className
  rw [className?, h, Option.bind_some, label, Text.stripEnd?_append, Option.getD_some]
  dsimp only
  rw [cut, Option.map_some]

-- ---------------------------------------------------------------------------
-- Events
-- ---------------------------------------------------------------------------

@[simp] theorem withListing_kind (e : StepEvent) (t : List Char) :
    (e.withListing t).kind = e.kind := by
  unfold withListing
  split <;> rfl

@[simp] theorem withListing_returned (e : StepEvent) (t : List Char) :
    (e.withListing t).returned = e.returned := by
  unfold withListing
  split <;> rfl

@[simp] theorem withListing_thread (e : StepEvent) (t : List Char) :
    (e.withListing t).thread = e.thread := by
  unfold withListing
  split <;> rfl

@[simp] theorem withListing_label (e : StepEvent) (t : List Char) :
    (e.withListing t).label = e.label := by
  unfold withListing
  split <;> rfl

theorem withListing_of_none (absent : sourceListing.find? t = none) : e.withListing t = e := by
  simp [withListing, absent]

/-- The event of a text without a place. -/
theorem coherent_empty : Coherent {} where
  thread_isSome := rfl
  method_isSome := rfl
  unplaced := fun _ => ⟨rfl, rfl, rfl⟩
  returned_iff := by simp
  named := by simp
  shown := by simp

theorem coherent_ofHeader (header : List Char) (entered : Bool) :
    (ofHeader header entered).Coherent := by
  cases found : stepLocation.find? header with
  | none =>
    have nothing : ofHeader header entered = {} := by simp [ofHeader, found]
    rw [nothing]
    exact coherent_empty
  | some m =>
    obtain ⟨thread, className, method, three, four, five, nonempty, free⟩ :=
      groups_of_find?_stepLocation found
    constructor
    · simp [ofHeader, found, three, four]
    · simp [ofHeader, found, five, four]
    · simp [ofHeader, found, four]
    · simp only [ofHeader, found]
      split
      · simp [*]
      · split <;> simp [*]
    · intro label h
      have named : (ofHeader header entered).label =
          some (.ofList (className ++ '.' :: method ++ "()".toList)) := by
        simp [ofHeader, found, four]
      obtain rfl := Option.some.inj (named.symm.trans h)
      refine ⟨.ofList className, .ofList method, className?_eq free named, ?_, ?_, ?_, ?_⟩
      · simp [ofHeader, found, five, dropWhile_method free]
      · simp [String.ofList_append, String.append_assoc]
      · simpa using nonempty
      · simpa using free
    · simp [ofHeader, found]

/-- A source line changes the line and its text only. -/
theorem Coherent.withListing (h : e.Coherent) (text : List Char) : (e.withListing text).Coherent := by
  unfold StepEvent.withListing
  split
  · exact h
  · next m found =>
    obtain ⟨source, two, nonempty, inside⟩ := group_of_find?_sourceListing found
    refine ⟨h.thread_isSome, h.method_isSome, h.unplaced, h.returned_iff, h.named, ?_⟩
    intro shown same
    rw [two, Option.map_some] at same
    obtain rfl := Option.some.inj same
    have free (c : Char) (ends : inLine c = false) : c ∉ source := fun h => by
      simp [inside c h] at ends
    exact ⟨by simpa using nonempty, by simpa using free '\r' (by decide),
      by simpa using free '\n' (by decide)⟩

theorem isEmpty_iff :
    e.isEmpty = true ↔ e.label = none ∧ e.line = none ∧ e.instruction = none := by
  simp [isEmpty, and_assoc]

/-- An event without label, line and source has nothing else either. -/
theorem Coherent.eq_empty (h : e.Coherent) (empty : e.isEmpty = true) : e = {} := by
  obtain ⟨label, line, instruction⟩ := isEmpty_iff.1 empty
  obtain ⟨kind, bci, returned⟩ := h.unplaced label
  have thread : e.thread = none := by simpa [label] using h.thread_isSome
  have method : e.method = none := by simpa [label] using h.method_isSome
  cases e
  simp_all

/-- Whatever the debugger writes, the parts of an event that is read agree, and the event counts as
empty exactly if it has neither label, line nor source; then it has no other part. -/
theorem coherent_of_ofOutput? (h : ofOutput? header listing entered = some e) :
    e.Coherent ∧
      (e.isEmpty = true ↔ e.label = none ∧ e.line = none ∧ e.instruction = none) ∧
      (e.isEmpty = true → e = {}) := by
  unfold ofOutput? at h
  split at h
  · cases h
  · obtain rfl := Option.some.inj h
    have coherent := ((coherent_ofHeader header entered).withListing header).withListing listing
    exact ⟨coherent, isEmpty_iff, coherent.eq_empty⟩

/-- An event whose label has points and parentheses inside, and whose byte code index is too large. -/
def misleading : StepEvent where
  kind := .methodEntry
  thread := some ""
  label := some "(a.b=1).c()() .d()"
  method := some "d"
  line := some 7
  instruction := some "y"

theorem coherent_misleading :
    ofOutput? "12 x\r\nMethod entered: \"thread=\", (a.b=1).c()() .d(), line=1 bci=4294967296".toList
        "7\t y\r\n8 z".toList false = some misleading ∧
      misleading.Coherent ∧
      (misleading.isEmpty = true ↔
        misleading.label = none ∧ misleading.line = none ∧ misleading.instruction = none) ∧
      (misleading.isEmpty = true → misleading = {}) := by
  have read : ofOutput?
      "12 x\r\nMethod entered: \"thread=\", (a.b=1).c()() .d(), line=1 bci=4294967296".toList
      "7\t y\r\n8 z".toList false = some misleading := rfl
  exact ⟨read, coherent_of_ofOutput? read⟩

end Retrace.StepEvent
