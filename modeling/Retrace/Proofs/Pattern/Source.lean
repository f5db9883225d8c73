import Retrace.Pattern.Literal
import Retrace.Proofs.Pattern.First
import Retrace.Text.Search

/-!
# The written form

A pattern is shown in its written form, and this form can be read again. Of the
signs in it those are read that stand for a character, a point for any character,
and a star for a run; an operator of another kind is refused, so nothing is taken
for something else. A text as it stands, written with backslashes, is read as that
text, whatever characters it has.
-/

namespace Retrace

-- ---------------------------------------------------------------------------
-- Signs
-- ---------------------------------------------------------------------------

/-- A sign of a written pattern. -/
inductive Sign where
  /-- A character that stands for itself. -/
  | letter (c : Char)
  /-- Any character. -/
  | point
  /-- The sign before it as often as possible. -/
  | star
  deriving DecidableEq, Repr

namespace Sign

/-- The characters that do not stand for themselves. -/
def operators : List Char :=
  ['\\', '.', '*', '+', '?', '(', ')', '|', '[', ']', '{', '}', '^', '$']

/-- A character that stands for itself behind a backslash. Letters, digits and angle brackets mean
something else there, and what is not ASCII means nothing. -/
def isEscapable (c : Char) : Bool :=
  c.toNat < 128 && !c.isAlphanum && c != '<' && c != '>'

/-- The sign that a character is without a backslash. -/
def ofChar? (c : Char) : Option Sign :=
  if c = '.' then some .point
  else if c = '*' then some .star
  else if operators.contains c then none
  else some (.letter c)

/-- The signs of a written pattern, unless it has operators of another kind. -/
def scan? : List Char → Option (List Sign)
  | [] => some []
  | '\\' :: c :: s => if isEscapable c then (scan? s).map (.letter c :: ·) else none
  | c :: s => (ofChar? c).bind fun sign => (scan? s).map (sign :: ·)

end Sign

/-- The expression of signs; `point` is the set of characters that a point stands for. A star needs
a character or a point before it. -/
def Expr.ofSigns? (point : Char → Bool) : List Sign → Option Expr
  | [] => some (.text [])
  | .letter c :: .star :: signs => (ofSigns? point signs).map (.many (· == c) ++ ·)
  | .point :: .star :: signs => (ofSigns? point signs).map (.many point ++ ·)
  | .letter c :: signs => (ofSigns? point signs).map (.text [c] ++ ·)
  | .point :: signs => (ofSigns? point signs).map (.one point ++ ·)
  | .star :: _ => none

/-- The expression of a written pattern. A point stands for a line feed only if `(?s)` comes first. -/
def Expr.read? (s : List Char) : Option Expr :=
  match Text.stripStart? "(?s)".toList s with
  | some s => (Sign.scan? s).bind (ofSigns? fun _ => true)
  | none => (Sign.scan? s).bind (ofSigns? (· != '\n'))

/-- The pattern with a written form. -/
def Pattern.ofSource? (source : String) : Option Pattern :=
  (Expr.read? source.toList).map fun e => ⟨source, e⟩

-- ---------------------------------------------------------------------------
-- The signs of a text as it stands
-- ---------------------------------------------------------------------------

namespace Sign

open Pattern (special escape)

/-- Every operator is written with a backslash. -/
theorem operators_subset_special : operators ⊆ special := by
  have all : operators.all special.contains = true := by decide
  exact fun c hc => List.contains_iff_mem.1 (List.all_eq_true.1 all c hc)

theorem ofChar?_of_notMem {c : Char} (h : c ∉ operators) : ofChar? c = some (.letter c) := by
  have ne_of_mem {d : Char} (hd : d ∈ operators) : c ≠ d := by
    rintro rfl
    exact h hd
  rw [ofChar?, if_neg (ne_of_mem (by decide)), if_neg (ne_of_mem (by decide)), if_neg (by simpa)]

/-- Behind a backslash a character with a meaning of its own has it no more. -/
theorem scan?_backslash {c : Char} (h : c ∈ special) (s : List Char) :
    scan? ('\\' :: c :: s) = (scan? s).map (.letter c :: ·) := by
  have escapable : special.all isEscapable = true := by decide
  rw [scan?, if_pos (List.all_eq_true.1 escapable c h)]

/-- The other characters need no backslash. -/
theorem scan?_plain {c : Char} (h : c ∉ special) (s : List Char) :
    scan? (c :: s) = (scan? s).map (.letter c :: ·) := by
  have ordinary : c ∉ operators := fun hc => h (operators_subset_special hc)
  rw [scan?, ofChar?_of_notMem ordinary]
  · rfl
  · rintro _ _ rfl
    exact absurd (List.mem_cons_self ..) ordinary

/-- Each character of a text as it stands is read as itself, whatever follows. -/
theorem scan?_escape (t s : List Char) :
    scan? (escape t ++ s) = (scan? s).map (t.map .letter ++ ·) := by
  induction t with
  | nil => simp [escape]
  | cons c t ih =>
    have head : scan? (escape (c :: t) ++ s) = (scan? (escape t ++ s)).map (.letter c :: ·) := by
      by_cases h : c ∈ special
      · have cut : escape (c :: t) ++ s = '\\' :: c :: (escape t ++ s) := by simp [escape, h]
        rw [cut, scan?_backslash h]
      · have cut : escape (c :: t) ++ s = c :: (escape t ++ s) := by simp [escape, h]
        rw [cut, scan?_plain h]
    rw [head, ih, Option.map_map]
    rfl

example : scan? "a.b*".toList = some [.letter 'a', .point, .letter 'b', .star] ∧
    scan? (escape "a.b*".toList) = some ("a.b*".toList.map .letter) ∧
    scan? "a[0]".toList = none ∧
    scan? (escape "a[0]".toList) = some ("a[0]".toList.map .letter) := by
  decide

end Sign

-- ---------------------------------------------------------------------------
-- Expressions with the same ways
-- ---------------------------------------------------------------------------

namespace Expr

theorem seq_ways_congr {b b' : Expr} (same : b.ways = b'.ways) (a : Expr) :
    (a ++ b).ways = (a ++ b').ways := by
  funext previous s
  rw [ways_seq, ways_seq, same]

theorem ways_text_nil_seq (e : Expr) : (text [] ++ e).ways = e.ways := by
  funext previous s
  have stays : (⟨[], s, []⟩ : Way).andThen = id := by
    funext x
    simp [Way.andThen]
  simp [ways_seq, ways, stays]

theorem ways_text_append (t u : List Char) : (text t ++ text u).ways = (text (t ++ u)).ways := by
  funext previous s
  by_cases starts : t <+: s
  · obtain ⟨s, rfl⟩ := starts
    by_cases later : u <+: s <;>
      simp [ways_seq, ways, Way.andThen, later, List.prefix_append_right_inj]
  · have absent : ¬ t ++ u <+: s := fun h => starts ((List.prefix_append t u).trans h)
    simp [ways_seq, ways, starts, absent]

theorem ways_text_text_seq (t u : List Char) (e : Expr) :
    (text t ++ (text u ++ e)).ways = (text (t ++ u) ++ e).ways := by
  funext previous s
  rw [← ways_assoc, ways_seq, ways_text_append, ways_seq]

/-- A search looks at the ways of an expression only. -/
theorem searchFrom_congr {e e' : Expr} (same : e.ways = e'.ways) (position : Nat)
    (previous : Option Char) (s : List Char) :
    e.searchFrom position previous s = e'.searchFrom position previous s := by
  have here (cur : Cursor) : e.matchAt? cur = e'.matchAt? cur := by
    rw [matchAt?_eq, matchAt?_eq, first?, first?, same]
  induction s generalizing position previous with
  | nil => rw [searchFrom, searchFrom, here]
  | cons c s ih => rw [searchFrom, searchFrom, here, ih]

end Expr

theorem Pattern.find?_congr {p q : Pattern} (same : p.expr.ways = q.expr.ways) (s : List Char) :
    p.find? s = q.find? s :=
  Expr.searchFrom_congr same ..

-- ---------------------------------------------------------------------------
-- Reading signs
-- ---------------------------------------------------------------------------

/-- Signs are read as an expression that has the same ways as this one. -/
def Sign.Read (point : Char → Bool) (signs : List Sign) (e : Expr) : Prop :=
  ∃ read, Expr.ofSigns? point signs = some read ∧ read.ways = e.ways

namespace Sign

variable {point : Char → Bool} {signs : List Sign} {e : Expr}

theorem read_nil (point : Char → Bool) : Read point [] (.text []) :=
  ⟨_, rfl, rfl⟩

theorem Read.points (h : Read point signs e) :
    Read point (.point :: .star :: signs) (.many point ++ e) := by
  obtain ⟨read, hread, same⟩ := h
  exact ⟨.many point ++ read, by rw [Expr.ofSigns?, hread]; rfl, Expr.seq_ways_congr same _⟩

/-- Letters are read as the text of them, unless a star takes the last one. -/
theorem Read.letters (h : Read point signs e) (apart : signs.head? ≠ some .star) (t : List Char) :
    Read point (t.map .letter ++ signs) (.text t ++ e) := by
  induction t with
  | nil =>
    obtain ⟨read, hread, same⟩ := h
    exact ⟨read, hread, same.trans (Expr.ways_text_nil_seq e).symm⟩
  | cons c t ih =>
    obtain ⟨read, hread, same⟩ := ih
    have joined : (.text [c] ++ read : Expr).ways = (.text (c :: t) ++ e : Expr).ways :=
      (Expr.seq_ways_congr same _).trans (Expr.ways_text_text_seq [c] t e)
    refine ⟨.text [c] ++ read, ?_, joined⟩
    rw [List.map_cons, List.cons_append, Expr.ofSigns?, hread]
    · rfl
    · -- No star takes `c`: behind it stands the next letter, or the first of `signs`.
      rintro later star
      cases t with
      | nil => exact apart (by simp_all)
      | cons d t => simp at star

theorem read_text (point : Char → Bool) (t : List Char) : Read point (t.map .letter) (.text t) := by
  obtain ⟨read, hread, same⟩ := (read_nil point).letters (by simp) t
  refine ⟨read, by simpa using hread, ?_⟩
  rw [same, Expr.ways_text_append, List.append_nil]

end Sign

end Retrace
