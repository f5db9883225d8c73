import Retrace.Pattern.Search
import Mathlib.Data.List.Basic

/-!
# The ways in which an expression fits

`Expr.go` hands each way in which an expression fits to a continuation. Here the
same ways are listed, in the order of preference, without a continuation: a way
is a piece of the text, what follows it, and what is remembered. Matching takes
the first way, and a search takes the leftmost place that has one.
-/

namespace Retrace

-- ---------------------------------------------------------------------------
-- Ways
-- ---------------------------------------------------------------------------

/-- One way in which an expression fits at the start of a text. -/
structure Way where
  /-- The piece of the text that it covers. -/
  text : List Char
  /-- What follows the piece. -/
  rest : List Char
  captures : Captures

/-- The last character of a piece, or the character before the piece if it is empty. -/
def lastOf (previous : Option Char) (text : List Char) : Option Char :=
  text.getLast?.or previous

@[simp] theorem lastOf_nil (previous : Option Char) : lastOf previous [] = previous :=
  rfl

@[simp] theorem lastOf_none (text : List Char) : lastOf none text = text.getLast? := by
  simp [lastOf]

@[simp] theorem lastOf_append (previous : Option Char) (a b : List Char) :
    lastOf (lastOf previous a) b = lastOf previous (a ++ b) := by
  simp [lastOf, List.getLast?_append, Option.or_assoc]

@[simp] theorem lastOf_cons (previous : Option Char) (c : Char) (text : List Char) :
    lastOf previous (c :: text) = lastOf (some c) text :=
  (lastOf_append previous [c] text).symm

namespace Way

/-- The way that covers nothing. -/
def here (s : List Char) : Way :=
  ⟨[], s, []⟩

/-- One way after another. -/
def andThen (x y : Way) : Way :=
  ⟨x.text ++ y.text, y.rest, y.captures ++ x.captures⟩

/-- A piece of a text and what follows it, with nothing remembered. -/
def ofSplit (split : List Char × List Char) : Way :=
  ⟨split.1, split.2, []⟩

/-- The place after a way that starts at a place. -/
def stop (x : Way) (cur : Cursor) : Cursor :=
  ⟨cur.position + x.text.length, lastOf cur.previous x.text, x.rest⟩

/-- What the group of a number covers. -/
def group? (x : Way) (n : Nat) : Option (List Char) :=
  x.captures.text? n

@[simp] theorem stop_here (cur : Cursor) : (here cur.rest).stop cur = cur := by
  simp [here, stop]

@[simp] theorem captures_andThen (x y : Way) : (x.andThen y).captures = y.captures ++ x.captures :=
  rfl

theorem stop_andThen (x y : Way) (cur : Cursor) :
    y.stop (x.stop cur) = (x.andThen y).stop cur := by
  simp [stop, andThen, Nat.add_assoc]

@[simp] theorem stop_previous (x : Way) (cur : Cursor) :
    (x.stop cur).previous = lastOf cur.previous x.text :=
  rfl

@[simp] theorem stop_rest (x : Way) (cur : Cursor) : (x.stop cur).rest = x.rest :=
  rfl

end Way

namespace Expr

/-- The runs of characters of a set at the start of a text, each with what follows it, longest
first. -/
def runs (set : Char → Bool) : List Char → List (List Char × List Char)
  | [] => [([], [])]
  | c :: s =>
    if set c then (runs set s).map (fun (run, rest) => (c :: run, rest)) ++ [([], c :: s)]
    else [([], c :: s)]

/-- The ways of repeating, more repetitions first. A repetition covers something. -/
def repeatWays (body : Option Char → List Char → List Way) :
    Nat → Option Char → List Char → List Way
  | 0, _, s => [.here s]
  | fuel + 1, previous, s =>
    ((body previous s).flatMap fun x =>
      if x.text = [] then []
      else (repeatWays body fuel (lastOf previous x.text) x.rest).map x.andThen) ++ [.here s]

/-- The ways in which an expression fits at the start of a text, preferred ones first. -/
def ways : Expr → Option Char → List Char → List Way
  | .text t, _, s => if t <+: s then [⟨t, s.drop t.length, []⟩] else []
  | .one _, _, [] => []
  | .one set, _, c :: s => if set c then [⟨[c], s, []⟩] else []
  | .many set, _, s => (runs set s).map .ofSplit
  | .seq a b, previous, s =>
    (a.ways previous s).flatMap fun x => (b.ways (lastOf previous x.text) x.rest).map x.andThen
  | .alt a b, previous, s => a.ways previous s ++ b.ways previous s
  | .plus e, previous, s =>
    (e.ways previous s).flatMap fun x =>
      (repeatWays e.ways s.length (lastOf previous x.text) x.rest).map x.andThen
  | .group n e, previous, s =>
    (e.ways previous s).map fun x =>
      { x with captures := ⟨n, s, x.text.length⟩ :: x.captures }
  | .lineStart, previous, s => if previous = none ∨ previous = some '\n' then [.here s] else []
  | .textStart, previous, s => if previous = none then [.here s] else []
  | .textEnd, _, s => if s = [] then [.here s] else []

-- ---------------------------------------------------------------------------
-- Matching tries the ways in their order
-- ---------------------------------------------------------------------------

variable {α : Type}

theorem runsFrom_eq (set : Char → Bool) (s : List Char) (position : Nat) (previous : Option Char)
    (found : List Cursor) :
    Cursor.runsFrom set position previous s found =
      (runs set s).map (fun split => (Way.ofSplit split).stop ⟨position, previous, s⟩) ++ found := by
  induction s generalizing position previous found with
  | nil => simp [Cursor.runsFrom, runs, Way.stop, Way.ofSplit]
  | cons c s ih =>
    simp only [Cursor.runsFrom, runs]
    split
    · rw [ih]
      simp [Way.stop, Way.ofSplit, Nat.add_assoc, Nat.add_comm 1]
    · simp [Way.stop, Way.ofSplit]

theorem skip?_eq (t : List Char) (cur : Cursor) :
    cur.skip? t =
      if t <+: cur.rest then some ((⟨t, cur.rest.drop t.length, []⟩ : Way).stop cur) else none := by
  induction t generalizing cur with
  | nil => simp [Cursor.skip?, Way.stop]
  | cons c t ih =>
    obtain ⟨position, previous, s⟩ := cur
    cases s with
    | nil => simp [Cursor.skip?]
    | cons d s =>
      by_cases h : c = d
      · subst h
        simp [Cursor.skip?, ih, Way.stop, Nat.add_comm, Nat.add_left_comm]
      · simp [Cursor.skip?, h, List.cons_prefix_cons]

/-- What `body` does with a continuation, given by its ways. -/
private def Tries (body : (Cursor → Captures → Option α) → Cursor → Captures → Option α)
    (found : Option Char → List Char → List Way) : Prop :=
  ∀ k cur caps, body k cur caps =
    (found cur.previous cur.rest).findSome? fun x => k (x.stop cur) (x.captures ++ caps)

theorem findSome?_flatMap {β γ : Type} (l : List β) (f : β → List γ) (g : γ → Option α) :
    (l.flatMap f).findSome? g = l.findSome? fun x => (f x).findSome? g := by
  induction l with
  | nil => rfl
  | cons x l ih =>
    simp only [List.flatMap_cons, List.findSome?_append, List.findSome?_cons, ih]
    cases (f x).findSome? g <;> rfl

private theorem repeated_eq
    {body : (Cursor → Captures → Option α) → Cursor → Captures → Option α}
    {found : Option Char → List Char → List Way} (h : Tries body found)
    (k : Cursor → Captures → Option α) (fuel : Nat) (cur : Cursor) (caps : Captures) :
    repeated body k fuel cur caps =
      (repeatWays found fuel cur.previous cur.rest).findSome? fun x =>
        k (x.stop cur) (x.captures ++ caps) := by
  induction fuel generalizing cur caps with
  | zero => simp [repeated, repeatWays]; simp [Way.here]
  | succ fuel ih =>
    have step : ∀ x : Way,
        (if cur.position < (x.stop cur).position then
          repeated body k fuel (x.stop cur) (x.captures ++ caps) else none) =
        ((if x.text = [] then [] else
          (repeatWays found fuel (lastOf cur.previous x.text) x.rest).map x.andThen) :
            List Way).findSome? fun y => k (y.stop cur) (y.captures ++ caps) := by
      intro x
      by_cases hx : x.text = []
      · simp [hx, Way.stop]
      · have pos : cur.position < (x.stop cur).position := by
          have := List.length_pos_iff.2 hx
          simp only [Way.stop]
          omega
        rw [if_pos pos, if_neg hx, ih, List.findSome?_map]
        simp [Function.comp_def, Way.stop_andThen]
    simp only [repeated, repeatWays, List.findSome?_append, findSome?_flatMap]
    rw [h, funext step]
    cases (found cur.previous cur.rest).findSome? _ with
    | none => simp [Way.here, Way.stop]
    | some result => rfl

/-- Matching with a continuation asks it for each way in turn. -/
theorem go_eq (e : Expr) (k : Cursor → Captures → Option α) (cur : Cursor) (caps : Captures) :
    e.go k cur caps =
      (e.ways cur.previous cur.rest).findSome? fun x => k (x.stop cur) (x.captures ++ caps) := by
  induction e generalizing k cur caps with
  | text t =>
    rw [go, ways, skip?_eq]
    by_cases h : t <+: cur.rest <;> simp [h]
  | one set =>
    obtain ⟨position, previous, s⟩ := cur
    cases s with
    | nil => simp [go, ways]
    | cons c s =>
      simp only [go, ways]
      split <;> simp [Way.stop]
  | many set =>
    rw [go, Cursor.runs, runsFrom_eq, ways]
    simp [List.findSome?_map, Function.comp_def, Way.ofSplit]
  | seq a b iha ihb =>
    rw [go, iha, ways, findSome?_flatMap]
    congr 1
    funext x
    rw [ihb, List.findSome?_map]
    simp [Function.comp_def, Way.stop_andThen]
  | alt a b iha ihb =>
    rw [go, iha, ihb, ways, List.findSome?_append]
    cases (a.ways cur.previous cur.rest).findSome? _ <;> rfl
  | plus e ih =>
    rw [go, ih, ways, findSome?_flatMap]
    congr 1
    funext x
    rw [repeated_eq ih, List.findSome?_map]
    simp [Function.comp_def, Way.stop_andThen]
  | group n e ih =>
    rw [go, ih, ways, List.findSome?_map]
    congr 1
    funext x
    simp [Way.stop]
  | lineStart =>
    obtain ⟨position, previous, s⟩ := cur
    cases previous <;> simp [go, ways, Cursor.atLineStart, Way.here, Way.stop]
    split <;> simp
  | textStart =>
    obtain ⟨position, previous, s⟩ := cur
    cases previous <;> simp [go, ways, Way.here, Way.stop]
  | textEnd =>
    obtain ⟨position, previous, s⟩ := cur
    cases s <;> simp [go, ways, Way.here, Way.stop]

-- ---------------------------------------------------------------------------
-- Which ways there are
-- ---------------------------------------------------------------------------

section

variable {set : Char → Bool} {a b e : Expr} {previous : Option Char} {s : List Char} {x : Way}

theorem mem_runs_iff {split : List Char × List Char} :
    split ∈ runs set s ↔ split.1 ++ split.2 = s ∧ ∀ c ∈ split.1, set c = true := by
  obtain ⟨run, rest⟩ := split
  induction s generalizing run with
  | nil => cases run <;> simp [runs]
  | cons c s ih =>
    cases run with
    | nil =>
      simp only [runs]
      split <;> simp
    | cons d run =>
      simp only [runs]
      split
      · next hc =>
        simp only [List.mem_append, List.mem_map, List.mem_singleton, Prod.mk.injEq, Prod.exists,
          List.cons.injEq, reduceCtorEq, false_and, or_false]
        constructor
        · rintro ⟨_, _, h, ⟨rfl, rfl⟩, rfl⟩
          obtain ⟨rfl, hrun⟩ := (ih _).1 h
          simp_all
        · rintro ⟨h, hrun⟩
          obtain ⟨rfl, rfl⟩ := List.cons.inj h
          have shorter := (ih run).2 ⟨rfl, fun x hx => hrun x (.tail _ hx)⟩
          exact ⟨run, rest, shorter, ⟨rfl, rfl⟩, rfl⟩
      · next hc =>
        simp only [List.mem_singleton, Prod.mk.injEq, reduceCtorEq, false_and, false_iff, not_and]
        intro h hrun
        obtain ⟨rfl, -⟩ := List.cons.inj h
        exact hc (hrun d (.head _))

theorem mem_ways_text_iff {t : List Char} :
    x ∈ (text t).ways previous s ↔ ∃ rest, s = t ++ rest ∧ x = ⟨t, rest, []⟩ := by
  rw [ways, List.mem_ite_nil_right, List.mem_singleton]
  constructor
  · rintro ⟨⟨rest, rfl⟩, rfl⟩
    exact ⟨rest, rfl, by simp⟩
  · rintro ⟨rest, rfl, rfl⟩
    exact ⟨List.prefix_append .., by simp⟩

theorem mem_ways_one_iff :
    x ∈ (one set).ways previous s ↔
      ∃ c rest, s = c :: rest ∧ set c = true ∧ x = ⟨[c], rest, []⟩ := by
  cases s <;> simp [ways]

theorem mem_ways_many_iff :
    x ∈ (many set).ways previous s ↔
      ∃ w rest, s = w ++ rest ∧ (∀ c ∈ w, set c = true) ∧ x = ⟨w, rest, []⟩ := by
  rw [ways, List.mem_map]
  constructor
  · rintro ⟨⟨w, rest⟩, split, rfl⟩
    obtain ⟨rfl, all⟩ := mem_runs_iff.1 split
    exact ⟨w, rest, rfl, all, rfl⟩
  · rintro ⟨w, rest, rfl, all, rfl⟩
    exact ⟨(w, rest), mem_runs_iff.2 ⟨rfl, all⟩, rfl⟩

theorem mem_flatMap_andThen_iff {found : List Way} {later : Way → List Way} :
    (x ∈ found.flatMap fun y => (later y).map y.andThen) ↔
      ∃ y ∈ found, ∃ z ∈ later y, x = y.andThen z := by
  simp only [List.mem_flatMap, List.mem_map, eq_comm]

theorem mem_ways_seq_iff :
    x ∈ (seq a b).ways previous s ↔
      ∃ y ∈ a.ways previous s, ∃ z ∈ b.ways (lastOf previous y.text) y.rest, x = y.andThen z :=
  mem_flatMap_andThen_iff

theorem mem_ways_alt_iff :
    x ∈ (alt a b).ways previous s ↔ x ∈ a.ways previous s ∨ x ∈ b.ways previous s :=
  List.mem_append

theorem mem_ways_plus_iff :
    x ∈ (plus e).ways previous s ↔ ∃ y ∈ e.ways previous s,
      ∃ z ∈ repeatWays e.ways s.length (lastOf previous y.text) y.rest, x = y.andThen z :=
  mem_flatMap_andThen_iff

theorem mem_ways_group_iff {n : Nat} :
    x ∈ (group n e).ways previous s ↔
      ∃ y ∈ e.ways previous s, x = { y with captures := ⟨n, s, y.text.length⟩ :: y.captures } := by
  simp only [ways, List.mem_map, eq_comm]

theorem mem_ways_lineStart_iff :
    x ∈ lineStart.ways previous s ↔ (previous = none ∨ previous = some '\n') ∧ x = .here s := by
  rw [ways, List.mem_ite_nil_right, List.mem_singleton]

theorem mem_ways_textStart_iff :
    x ∈ textStart.ways previous s ↔ previous = none ∧ x = .here s := by
  rw [ways, List.mem_ite_nil_right, List.mem_singleton]

theorem mem_ways_textEnd_iff : x ∈ textEnd.ways previous s ↔ s = [] ∧ x = .here s := by
  rw [ways, List.mem_ite_nil_right, List.mem_singleton]

/-- Either a way that covers something is repeated, or nothing is. -/
theorem mem_repeatWays_succ_iff {body : Option Char → List Char → List Way} {fuel : Nat} :
    x ∈ repeatWays body (fuel + 1) previous s ↔
      (∃ y ∈ body previous s, y.text ≠ [] ∧
        ∃ z ∈ repeatWays body fuel (lastOf previous y.text) y.rest, x = y.andThen z) ∨
      x = .here s := by
  simp only [repeatWays, List.mem_append, List.mem_flatMap, List.mem_ite_nil_left, List.mem_map,
    List.mem_singleton, ne_eq, eq_comm]

end

-- ---------------------------------------------------------------------------
-- A way covers the text up to its rest
-- ---------------------------------------------------------------------------

theorem andThen_append {x y : Way} {s : List Char} (first : x.text ++ x.rest = s)
    (second : y.text ++ y.rest = x.rest) : (x.andThen y).text ++ (x.andThen y).rest = s := by
  rw [← first, ← second]
  exact List.append_assoc ..

theorem repeatWays_append {body : Option Char → List Char → List Way}
    (covers : ∀ previous s x, x ∈ body previous s → x.text ++ x.rest = s)
    {fuel : Nat} {previous : Option Char} {s : List Char} {x : Way}
    (h : x ∈ repeatWays body fuel previous s) : x.text ++ x.rest = s := by
  induction fuel generalizing previous s x with
  | zero =>
    obtain rfl := List.mem_singleton.1 h
    rfl
  | succ fuel ih =>
    rcases mem_repeatWays_succ_iff.1 h with ⟨y, hy, -, z, hz, rfl⟩ | rfl
    · exact andThen_append (covers _ _ _ hy) (ih hz)
    · rfl

theorem ways_append {e : Expr} {previous : Option Char} {s : List Char} {x : Way}
    (h : x ∈ e.ways previous s) : x.text ++ x.rest = s := by
  induction e generalizing previous s x with
  | text t =>
    obtain ⟨rest, rfl, rfl⟩ := mem_ways_text_iff.1 h
    rfl
  | one set =>
    obtain ⟨c, rest, rfl, -, rfl⟩ := mem_ways_one_iff.1 h
    rfl
  | many set =>
    obtain ⟨w, rest, rfl, -, rfl⟩ := mem_ways_many_iff.1 h
    rfl
  | seq a b iha ihb =>
    obtain ⟨y, hy, z, hz, rfl⟩ := mem_ways_seq_iff.1 h
    exact andThen_append (iha hy) (ihb hz)
  | alt a b iha ihb => exact (mem_ways_alt_iff.1 h).elim iha ihb
  | plus e ih =>
    obtain ⟨y, hy, z, hz, rfl⟩ := mem_ways_plus_iff.1 h
    exact andThen_append (ih hy) (repeatWays_append (fun _ _ _ => ih) hz)
  | group n e ih =>
    obtain ⟨y, hy, rfl⟩ := mem_ways_group_iff.1 h
    have covered : y.text ++ y.rest = s := ih hy
    exact covered
  | lineStart =>
    obtain ⟨-, rfl⟩ := mem_ways_lineStart_iff.1 h
    rfl
  | textStart =>
    obtain ⟨-, rfl⟩ := mem_ways_textStart_iff.1 h
    rfl
  | textEnd =>
    obtain ⟨-, rfl⟩ := mem_ways_textEnd_iff.1 h
    rfl

end Expr

end Retrace
