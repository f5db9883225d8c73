import Retrace.Proofs.Text.Trim
import Retrace.Value.Elements

/-!
# Elements that are joined

What can stand as an element: its scan meets no separator and ends where it began, outside of quotes
and braces. A text is cut behind such an element and nowhere in it, and elements with commas between
them are balanced inside of braces.
-/

namespace Retrace.Elements

open Text (trim isBlank)

variable {scan after last : Scan} {c : Char} {s t e : List Char}

-- ---------------------------------------------------------------------------
-- Scans without separators
-- ---------------------------------------------------------------------------

/-- The scan of a text meets no separator. It begins at one place and ends at another. -/
inductive Passes : Scan → List Char → Scan → Prop where
  | nil {scan : Scan} : Passes scan [] scan
  | cons {scan after : Scan} {c : Char} {rest : List Char} (inside : scan.separates c = false)
      (later : Passes (scan.next c) rest after) : Passes scan (c :: rest) after

theorem Passes.append (first : Passes scan s after) (second : Passes after t last) :
    Passes scan (s ++ t) last := by
  induction first with
  | nil => exact second
  | cons inside later ih => exact .cons inside (ih second)

/-- A quote, a brace or a comma: what a scan looks for. -/
def isDelimiter (c : Char) : Bool :=
  c ∈ [',', '\x27', '"', '{', '}']

theorem Scan.next_of_plain (scan : Scan) (plain : isDelimiter c = false) :
    scan.separates c = false ∧ (scan.quote = none → scan.next c = scan) := by
  simp only [isDelimiter, List.mem_cons, List.not_mem_nil, or_false, decide_eq_false_iff_not,
    not_or] at plain
  obtain ⟨comma, single, double, opening, closing⟩ := plain
  constructor
  · simp [separates, comma]
  · intro outside
    simp [next, outside, single, double, opening, closing]

/-- Between quotes only the quote that is open counts. -/
theorem passes_quoted {q : Char} {depth : Nat} (free : q ∉ s) :
    Passes ⟨some q, depth⟩ s ⟨some q, depth⟩ := by
  induction s with
  | nil => exact .nil
  | cons c s ih =>
    obtain ⟨other, later⟩ : q ≠ c ∧ q ∉ s := by simpa using free
    have stays : Scan.next ⟨some q, depth⟩ c = ⟨some q, depth⟩ := by
      simp [Scan.next, Ne.symm other]
    exact .cons (by simp [Scan.separates, Scan.top]) (stays.symm ▸ ih later)

-- ---------------------------------------------------------------------------
-- Balanced texts
-- ---------------------------------------------------------------------------

/-- The scan of a text outside of quotes comes back to where it began, inside of any braces. -/
def Balanced (s : List Char) : Prop :=
  ∀ depth, Passes ⟨none, depth⟩ s ⟨none, depth⟩

theorem balanced_of_plain (plain : ∀ c ∈ s, isDelimiter c = false) : Balanced s := by
  intro depth
  induction s with
  | nil => exact .nil
  | cons c s ih =>
    obtain ⟨first, rest⟩ := List.forall_mem_cons.1 plain
    obtain ⟨inside, stays⟩ := Scan.next_of_plain ⟨none, depth⟩ first
    exact .cons inside ((stays rfl).symm ▸ ih rest)

/-- A text between double quotes, which has none of them, is balanced. -/
theorem balanced_quoted (free : '"' ∉ s) : Balanced ('"' :: (s ++ ['"'])) := by
  intro depth
  apply Passes.cons (by simp [Scan.separates])
  exact (passes_quoted free).append (.cons (by simp [Scan.separates]) .nil)

-- ---------------------------------------------------------------------------
-- Joining
-- ---------------------------------------------------------------------------

/-- Elements with a comma and a blank between them. -/
def joined (elements : List (List Char)) : List Char :=
  [',', ' '].intercalate elements

@[simp] theorem joined_nil : joined [] = [] :=
  rfl

@[simp] theorem joined_singleton (e : List Char) : joined [e] = e :=
  List.intercalate_singleton

@[simp] theorem joined_cons_cons (e e' : List Char) (elements : List (List Char)) :
    joined (e :: e' :: elements) = e ++ ',' :: ' ' :: joined (e' :: elements) := by
  rw [joined, List.intercalate_cons_cons, List.append_assoc]
  rfl

/-- Inside of braces no comma separates. -/
theorem passes_joined (depth : Nat) {elements : List (List Char)}
    (balanced : ∀ e ∈ elements, Balanced e) :
    Passes ⟨none, depth + 1⟩ (joined elements) ⟨none, depth + 1⟩ := by
  induction elements with
  | nil => exact .nil
  | cons e later ih =>
    obtain ⟨first, rest⟩ := List.forall_mem_cons.1 balanced
    cases later with
    | nil =>
      rw [joined_singleton]
      exact first _
    | cons e' later =>
      rw [joined_cons_cons]
      apply (first _).append
      apply Passes.cons (by simp [Scan.separates, Scan.top])
      exact .cons (by simp [Scan.separates]) (ih rest)

/-- Balanced texts with commas between them are balanced inside of braces. -/
theorem balanced_braced {elements : List (List Char)} (balanced : ∀ e ∈ elements, Balanced e) :
    Balanced ('{' :: (joined elements ++ ['}'])) := by
  intro depth
  apply Passes.cons (by simp [Scan.separates])
  exact (passes_joined depth balanced).append (.cons (by simp [Scan.separates]) .nil)

-- ---------------------------------------------------------------------------
-- Cutting at commas
-- ---------------------------------------------------------------------------

theorem foldr_consFirst (s piece : List Char) (pieces : List (List Char)) :
    s.foldr consFirst (piece :: pieces) = (s ++ piece) :: pieces := by
  induction s with
  | nil => rfl
  | cons c s ih => rw [List.foldr_cons, ih, List.cons_append, consFirst]

theorem exists_pieces (scan : Scan) (s : List Char) : ∃ t ps, pieces scan s = t :: ps := by
  cases s with
  | nil => exact ⟨[], [], rfl⟩
  | cons c s =>
    rw [pieces]
    split
    · exact ⟨[], _, rfl⟩
    · cases pieces (scan.next c) s with
      | nil => exact ⟨[c], [], rfl⟩
      | cons t ps => exact ⟨c :: t, ps, rfl⟩

/-- A text without separators belongs to the first piece of what follows it. -/
theorem pieces_append (h : Passes scan s after) (t : List Char) :
    pieces scan (s ++ t) = s.foldr consFirst (pieces after t) := by
  induction h with
  | nil => rfl
  | cons inside later ih => simp [pieces, inside, ih]

theorem pieces_of_passes (h : Passes scan s after) : pieces scan s = [s] := by
  have whole := pieces_append h []
  rwa [List.append_nil, pieces, foldr_consFirst, List.append_nil] at whole

theorem pieces_append_comma (h : Passes scan s .top) (t : List Char) :
    pieces scan (s ++ ',' :: t) = s :: pieces .top t := by
  have cut : pieces .top (',' :: t) = [] :: pieces .top t := by simp [pieces, Scan.separates]
  rw [pieces_append h, cut, foldr_consFirst, List.append_nil]

/-- A text that can stand as one element: it is not cut, and nothing of it is trimmed away. -/
structure Element (e : List Char) : Prop where
  nonempty : e ≠ []
  trimmed : trim e = e
  passes : Passes .top e .top

variable {elements : List (List Char)}

theorem head?_joined (nonempty : e ≠ []) (elements : List (List Char)) :
    (joined (e :: elements)).head? = e.head? := by
  cases elements with
  | nil => rw [joined_singleton]
  | cons e' later => rw [joined_cons_cons, List.head?_append_of_ne_nil _ nonempty]

theorem getLast?_joined (h : ∀ e ∈ elements, e ≠ []) (last : elements.getLast? = some e) :
    (joined elements).getLast? = e.getLast? := by
  induction elements with
  | nil => simp at last
  | cons d later ih =>
    obtain ⟨-, rest⟩ := List.forall_mem_cons.1 h
    cases later with
    | nil =>
      obtain rfl : d = e := by simpa using last
      rw [joined_singleton]
    | cons d' later =>
      have later_last : (d' :: later).getLast? = some e := by simpa using last
      have ending := ih rest later_last
      obtain ⟨c, hc⟩ := Option.isSome_iff_exists.1
        (List.getLast?_isSome.2 (rest e (List.mem_of_getLast? later_last)))
      rw [hc] at ending ⊢
      simp [List.getLast?_append, List.getLast?_cons, ending]

/-- Nothing is trimmed off elements with commas between them. -/
theorem trim_joined (h : ∀ e ∈ elements, Element e) : trim (joined elements) = joined elements := by
  cases elements with
  | nil => rfl
  | cons e later =>
    have nonempty : ∀ d ∈ e :: later, d ≠ [] := fun d hd => (h d hd).nonempty
    apply Text.trim_of_ends
    · intro c hc
      rw [head?_joined (nonempty e (.head _))] at hc
      exact (Text.ends_of_trim (h e (.head _)).trimmed).1 c hc
    · intro c hc
      obtain ⟨d, last⟩ := Option.isSome_iff_exists.1
        (List.getLast?_isSome.2 (List.cons_ne_nil e later))
      rw [getLast?_joined nonempty last] at hc
      exact (Text.ends_of_trim (h d (List.mem_of_getLast? last)).trimmed).2 c hc

end Retrace.Elements
