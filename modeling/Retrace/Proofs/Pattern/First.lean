import Retrace.Proofs.Pattern.Settled

/-!
# The preferred way

How the first way of an expression follows from the first ways of its parts. As
long as a part is followed by what cannot belong to it, its longest run is the
right one and no later way is needed; where a run has to give characters back,
the ways that are left have to agree.
-/

namespace Retrace.Expr

variable {a b c : Expr} {previous : Option Char} {s : List Char} {x y z : Way}

-- ---------------------------------------------------------------------------
-- One after the other
-- ---------------------------------------------------------------------------

theorem ways_seq (a b : Expr) (previous : Option Char) (s : List Char) :
    (a ++ b).ways previous s =
      (a.ways previous s).flatMap fun x =>
        (b.ways (lastOf previous x.text) x.rest).map x.andThen :=
  rfl

theorem mem_ways_seq (hx : x ∈ a.ways previous s)
    (hy : y ∈ b.ways (lastOf previous x.text) x.rest) : x.andThen y ∈ (a ++ b).ways previous s :=
  mem_ways_seq_iff.2 ⟨x, hx, y, hy, rfl⟩

theorem exists_of_mem_ways_seq (h : x ∈ (a ++ b).ways previous s) :
    ∃ y ∈ a.ways previous s, ∃ z ∈ b.ways (lastOf previous y.text) y.rest, x = y.andThen z :=
  mem_ways_seq_iff.1 h

/-- Sequences may be read from either end. -/
theorem ways_assoc (a b c : Expr) (previous : Option Char) (s : List Char) :
    ((a ++ b) ++ c).ways previous s = (a ++ (b ++ c)).ways previous s := by
  simp only [ways_seq, List.flatMap_assoc, List.flatMap_map, List.map_flatMap, List.map_map]
  congr 1
  funext x
  congr 1
  funext y
  simp [Way.andThen, Function.comp_def]

theorem first?_assoc (a b c : Expr) (previous : Option Char) (s : List Char) :
    ((a ++ b) ++ c).first? previous s = (a ++ (b ++ c)).first? previous s := by
  rw [first?, ways_assoc, first?]

/-- A sequence does not fit if its second part fits after no way of the first part. -/
theorem ways_seq_eq_nil
    (h : ∀ x ∈ a.ways previous s, b.ways (lastOf previous x.text) x.rest = []) :
    (a ++ b).ways previous s = [] := by
  rw [ways_seq, List.flatMap_eq_nil_iff]
  intro x hx
  rw [h x hx, List.map_nil]

theorem ways_lit_seq_eq_nil {t : String} (h : ¬ t.toList <+: s) :
    (lit t ++ b).ways previous s = [] := by
  refine ways_seq_eq_nil fun x hx => ?_
  simp [lit, ways, h] at hx

/-- The first way of the second part after the first way of the first part. -/
theorem first?_seq (ha : a.first? previous s = some x)
    (hb : b.first? (lastOf previous x.text) x.rest = some y) :
    (a ++ b).first? previous s = some (x.andThen y) := by
  obtain ⟨others, hx⟩ := List.head?_eq_some_iff.1 ha
  obtain ⟨later, hy⟩ := List.head?_eq_some_iff.1 hb
  rw [first?, ways_seq, hx, List.flatMap_cons, hy]
  rfl

/-- If some way of the first part lets the second part follow, the first way of the sequence begins
with such a way. -/
theorem exists_first?_seq (hx : x ∈ a.ways previous s)
    (fits : b.first? (lastOf previous x.text) x.rest = some y) :
    ∃ y ∈ a.ways previous s, ∃ z, b.first? (lastOf previous y.text) y.rest = some z ∧
      (a ++ b).first? previous s = some (y.andThen z) := by
  rw [first?, ways_seq]
  generalize a.ways previous s = found at hx ⊢
  induction found with
  | nil => simp at hx
  | cons w others ih =>
    cases hw : b.ways (lastOf previous w.text) w.rest with
    | cons z later => exact ⟨w, .head _, z, by simp [first?, hw], by simp [hw]⟩
    | nil =>
      have later : x ∈ others := by
        rcases List.mem_cons.1 hx with rfl | later
        · simp [first?, hw] at fits
        · exact later
      obtain ⟨y, hy, z, hz, first⟩ := ih later
      exact ⟨y, .tail _ hy, z, hz, by simpa [hw] using first⟩

-- ---------------------------------------------------------------------------
-- Other expressions
-- ---------------------------------------------------------------------------

/-- A fixed text does not fit another one from which it differs before either ends. -/
theorem ways_lit_eq_nil {t u : List Char} (h : ¬ t <+: u ∧ ¬ u <+: t) (previous : Option Char)
    (rest : List Char) : (text t).ways previous (u ++ rest) = [] := by
  have differ : ¬ t <+: u ++ rest := fun within =>
    (List.prefix_or_prefix_of_prefix within (List.prefix_append ..)).elim h.1 h.2
  simp [ways, differ]

theorem first?_lit (t : String) (previous : Option Char) (s : List Char) :
    (lit t).first? previous (t.toList ++ s) = some ⟨t.toList, s, []⟩ := by
  simp [first?, lit, ways]

theorem first?_group (n : Nat) (h : a.first? previous s = some x) :
    (group n a).first? previous s =
      some { x with captures := ⟨n, s, x.text.length⟩ :: x.captures } := by
  have found : (a.ways previous s).head? = some x := h
  simp [first?, ways, found]

theorem first?_alt_left (h : a.first? previous s = some x) :
    (alt a b).first? previous s = some x := by
  have found : (a.ways previous s).head? = some x := h
  simp [first?, ways, List.head?_append, found]

theorem first?_alt_right (h : a.ways previous s = []) :
    (alt a b).first? previous s = b.first? previous s := by
  simp [first?, ways, h]

theorem first?_lineStart (h : previous = none ∨ previous = some '\n') :
    lineStart.first? previous s = some (.here s) := by
  simp [first?, ways, h]

/-- The longest run ends where the next character is not in the set. -/
theorem head?_runs {set : Char → Bool} {w rest : List Char} (hw : ∀ c ∈ w, set c = true)
    (stops : ∀ c, rest.head? = some c → set c = false) :
    (runs set (w ++ rest)).head? = some (w, rest) := by
  induction w with
  | nil =>
    cases rest with
    | nil => rfl
    | cons c rest => simp [runs, stops c rfl]
  | cons c w ih =>
    obtain ⟨hc, hw⟩ := List.forall_mem_cons.1 hw
    simp [runs, hc, List.head?_append, ih hw]

theorem first?_many {set : Char → Bool} {w rest : List Char} (previous : Option Char)
    (hw : ∀ c ∈ w, set c = true) (stops : ∀ c, rest.head? = some c → set c = false) :
    (many set).first? previous (w ++ rest) = some ⟨w, rest, []⟩ := by
  simp [first?, ways, head?_runs hw stops, Way.ofSplit]

theorem first?_many1 {set : Char → Bool} {w rest : List Char} (previous : Option Char)
    (nonempty : w ≠ []) (hw : ∀ c ∈ w, set c = true) (stops : ∀ c, rest.head? = some c → set c = false) :
    (many1 set).first? previous (w ++ rest) = some ⟨w, rest, []⟩ := by
  obtain ⟨c, w, rfl⟩ := List.exists_cons_of_ne_nil nonempty
  obtain ⟨hc, hw⟩ := List.forall_mem_cons.1 hw
  have one : (one set).first? previous (c :: w ++ rest) = some ⟨[c], w ++ rest, []⟩ := by
    simp [first?, ways, hc]
  exact first?_seq one (first?_many _ hw stops)

-- ---------------------------------------------------------------------------
-- Repetitions
-- ---------------------------------------------------------------------------

/-- A way of the body with repetitions behind it ends with the last of them, or with itself. -/
theorem andThen_last {body : Option Char → List Char → List Way} {rest : List Char}
    (hy : y ∈ body previous s) (h : z = .here rest ∨ ∃ front earlier previous' s',
      ∃ w ∈ body previous' s', z.text = front ++ w.text ∧ z.captures = w.captures ++ earlier) :
    ∃ front earlier previous' s', ∃ w ∈ body previous' s',
      (y.andThen z).text = front ++ w.text ∧ (y.andThen z).captures = w.captures ++ earlier := by
  rcases h with rfl | ⟨front, earlier, previous', s', w, hw, text_eq, captures_eq⟩
  · exact ⟨[], [], previous, s, y, hy, by simp [Way.andThen, Way.here], by simp [Way.here]⟩
  · exact ⟨y.text ++ front, earlier ++ y.captures, previous', s', w, hw,
      by simp [Way.andThen, text_eq], by simp [captures_eq]⟩

/-- Repetitions end with one of the body, whose memory is the latest; or there is none. -/
theorem repeatWays_last {body : Option Char → List Char → List Way} {fuel : Nat}
    (h : x ∈ repeatWays body fuel previous s) :
    x = .here s ∨ ∃ front earlier previous' s', ∃ y ∈ body previous' s',
      x.text = front ++ y.text ∧ x.captures = y.captures ++ earlier := by
  induction fuel generalizing previous s x with
  | zero => exact .inl (List.mem_singleton.1 h)
  | succ fuel ih =>
    rcases mem_repeatWays_succ_iff.1 h with ⟨y, hy, -, z, hz, rfl⟩ | rfl
    · exact .inr (andThen_last hy (ih hz))
    · exact .inl rfl

theorem plus_last (h : x ∈ (plus a).ways previous s) :
    ∃ front earlier previous' s', ∃ y ∈ a.ways previous' s',
      x.text = front ++ y.text ∧ x.captures = y.captures ++ earlier := by
  obtain ⟨y, hy, z, hz, rfl⟩ := mem_ways_plus_iff.1 h
  exact andThen_last hy (repeatWays_last hz)

/-- Pieces that a plain expression covers one after another can be repeated. -/
theorem exists_repeatWays {pieces : List (List Char)} {fuel : Nat}
    (covered : ∀ w ∈ pieces, w ≠ [] ∧ ∀ previous, a.Covers previous w)
    (enough : pieces.length ≤ fuel) (previous : Option Char) (rest : List Char) :
    ∃ x ∈ repeatWays a.ways fuel previous (pieces.flatten ++ rest), x.text = pieces.flatten := by
  induction pieces generalizing fuel previous with
  | nil => cases fuel <;> simp [repeatWays, Way.here]
  | cons w pieces ih =>
    obtain ⟨⟨nonempty, hw⟩, later⟩ := List.forall_mem_cons.1 covered
    cases fuel with
    | zero => simp at enough
    | succ fuel =>
      obtain ⟨y, hy, rfl⟩ := exists_way_of_covers (hw previous) (pieces.flatten ++ rest)
      obtain ⟨z, hz, text_eq⟩ := ih later (by simpa using enough) (lastOf previous y.text)
      have rest_eq : y.rest = pieces.flatten ++ rest := by
        simpa using ways_append hy
      rw [List.flatten_cons, List.append_assoc]
      exact ⟨y.andThen z, mem_repeatWays_succ_iff.2 (.inl ⟨y, hy, nonempty, z, rest_eq ▸ hz, rfl⟩),
        by simp [Way.andThen, text_eq]⟩

theorem length_le_flatten {pieces : List (List Char)} (h : ∀ w ∈ pieces, w ≠ []) :
    pieces.length ≤ pieces.flatten.length := by
  induction pieces with
  | nil => simp
  | cons w pieces ih =>
    obtain ⟨nonempty, later⟩ := List.forall_mem_cons.1 h
    have := ih later
    have := List.length_pos_iff.2 nonempty
    simp only [List.length_cons, List.flatten_cons, List.length_append]
    omega

theorem exists_plus_of_pieces {pieces : List (List Char)} (some_piece : pieces ≠ [])
    (covered : ∀ w ∈ pieces, w ≠ [] ∧ ∀ previous, a.Covers previous w)
    (previous : Option Char) (rest : List Char) :
    ∃ x ∈ (plus a).ways previous (pieces.flatten ++ rest), x.text = pieces.flatten := by
  obtain ⟨w, pieces, rfl⟩ := List.exists_cons_of_ne_nil some_piece
  obtain ⟨⟨-, hw⟩, later⟩ := List.forall_mem_cons.1 covered
  have short : pieces.length ≤ ((w :: pieces).flatten ++ rest).length := by
    have := length_le_flatten fun v hv => (later v hv).1
    simp only [List.flatten_cons, List.length_append]
    omega
  obtain ⟨y, hy, rfl⟩ := exists_way_of_covers (hw previous) (pieces.flatten ++ rest)
  obtain ⟨z, hz, text_eq⟩ := exists_repeatWays later short (lastOf previous y.text) rest
  have rest_eq : y.rest = pieces.flatten ++ rest := by
    simpa using ways_append hy
  rw [List.flatten_cons, List.append_assoc] at hz ⊢
  exact ⟨y.andThen z, mem_ways_plus_iff.2 ⟨y, hy, z, rest_eq ▸ hz, rfl⟩,
    by simp [Way.andThen, text_eq]⟩

-- ---------------------------------------------------------------------------
-- What is remembered
-- ---------------------------------------------------------------------------

/-- The numbers of the groups. -/
def groups : Expr → List Nat
  | .seq a b | .alt a b => a.groups ++ b.groups
  | .plus e => e.groups
  | .group n e => n :: e.groups
  | _ => []

/-- What a capture of an expression says: it is of one of its groups, and it covers a part of the
text where it starts. -/
def Captured (e : Expr) (cap : Capture) : Prop :=
  cap.group ∈ e.groups ∧ cap.length ≤ cap.start.length

private theorem captures_of_mem_repeatWays {holds : Capture → Prop}
    {body : Option Char → List Char → List Way}
    (known : ∀ previous s x, x ∈ body previous s → ∀ cap ∈ x.captures, holds cap)
    {fuel : Nat} (h : x ∈ repeatWays body fuel previous s) {cap : Capture}
    (hc : cap ∈ x.captures) : holds cap := by
  induction fuel generalizing previous s x with
  | zero =>
    obtain rfl := List.mem_singleton.1 h
    simp [Way.here] at hc
  | succ fuel ih =>
    rcases mem_repeatWays_succ_iff.1 h with ⟨y, hy, -, z, hz, rfl⟩ | rfl
    · rcases List.mem_append.1 hc with hc | hc
      · exact ih hz hc
      · exact known _ _ _ hy _ hc
    · simp [Way.here] at hc

theorem captured_of_mem_ways {e : Expr} (h : x ∈ e.ways previous s) {cap : Capture}
    (hc : cap ∈ x.captures) : e.Captured cap := by
  induction e generalizing previous s x cap with
  | text t =>
    obtain ⟨rest, -, rfl⟩ := mem_ways_text_iff.1 h
    simp at hc
  | one set =>
    obtain ⟨c, rest, -, -, rfl⟩ := mem_ways_one_iff.1 h
    simp at hc
  | many set =>
    obtain ⟨w, rest, -, -, rfl⟩ := mem_ways_many_iff.1 h
    simp at hc
  | seq a b iha ihb =>
    obtain ⟨y, hy, z, hz, rfl⟩ := mem_ways_seq_iff.1 h
    rcases List.mem_append.1 hc with hc | hc
    · exact (ihb hz hc).imp_left (List.mem_append_right _)
    · exact (iha hy hc).imp_left (List.mem_append_left _)
  | alt a b iha ihb =>
    rcases mem_ways_alt_iff.1 h with h | h
    · exact (iha h hc).imp_left (List.mem_append_left _)
    · exact (ihb h hc).imp_left (List.mem_append_right _)
  | plus e ih =>
    obtain ⟨y, hy, z, hz, rfl⟩ := mem_ways_plus_iff.1 h
    rcases List.mem_append.1 hc with hc | hc
    · exact captures_of_mem_repeatWays (fun _ _ _ h _ hc => ih h hc) hz hc
    · exact ih hy hc
  | group n e ih =>
    obtain ⟨y, hy, rfl⟩ := mem_ways_group_iff.1 h
    rcases List.mem_cons.1 hc with rfl | hc
    · exact ⟨.head _, by simp [← ways_append hy]⟩
    · exact (ih hy hc).imp_left (.tail _)
  | lineStart =>
    obtain ⟨-, rfl⟩ := mem_ways_lineStart_iff.1 h
    simp [Way.here] at hc
  | textStart =>
    obtain ⟨-, rfl⟩ := mem_ways_textStart_iff.1 h
    simp [Way.here] at hc
  | textEnd =>
    obtain ⟨-, rfl⟩ := mem_ways_textEnd_iff.1 h
    simp [Way.here] at hc

theorem mem_groups_of_mem_captures {e : Expr} (h : x ∈ e.ways previous s) {cap : Capture}
    (hc : cap ∈ x.captures) : cap.group ∈ e.groups :=
  (captured_of_mem_ways h hc).1

end Retrace.Expr

namespace Retrace.Captures

theorem text?_append (later earlier : Captures) (n : Nat) :
    Captures.text? (later ++ earlier) n = (later.text? n).or (earlier.text? n) := by
  simp [text?, List.find?_append, Option.map_or]

theorem text?_eq_none {caps : Captures} {n : Nat} (h : ∀ cap ∈ caps, cap.group ≠ n) :
    caps.text? n = none := by
  simpa [text?] using h

@[simp] theorem text?_nil (n : Nat) : Captures.text? [] n = none :=
  rfl

@[simp] theorem text?_cons (cap : Capture) (earlier : Captures) (n : Nat) :
    Captures.text? (cap :: earlier) n =
      if cap.group = n then some (cap.start.take cap.length) else earlier.text? n := by
  by_cases h : cap.group = n <;> simp [text?, h]

end Retrace.Captures

namespace Retrace.Expr

@[simp] theorem group?_mk (text rest : List Char) (caps : Captures) (n : Nat) :
    (⟨text, rest, caps⟩ : Way).group? n = caps.text? n :=
  rfl

/-- What is remembered later counts. -/
@[simp] theorem group?_andThen (x y : Way) (n : Nat) :
    (x.andThen y).group? n = (y.group? n).or (x.group? n) :=
  Captures.text?_append y.captures x.captures n

/-- A group remembers the piece that it covers. -/
theorem group?_of_mem_group {n : Nat} {e : Expr} {previous : Option Char} {s : List Char} {x : Way}
    (h : x ∈ (group n e).ways previous s) : x.group? n = some x.text := by
  obtain ⟨y, hy, rfl⟩ := mem_ways_group_iff.1 h
  simp [Way.group?, ← ways_append hy]

/-- A group that an expression does not have is not remembered. -/
theorem group?_eq_none {e : Expr} {n : Nat} (h : x ∈ e.ways previous s) (absent : n ∉ e.groups) :
    x.group? n = none := by
  refine Captures.text?_eq_none fun cap hc same => absent ?_
  rw [← same]
  exact mem_groups_of_mem_captures h hc

end Retrace.Expr
