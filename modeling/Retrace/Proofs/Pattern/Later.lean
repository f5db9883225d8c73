import Retrace.Proofs.Pattern.First

/-!
# Ways that later text leaves alone

Text that is added at the end gives an expression more ways to fit, but only ones
that reach into it: the others stay, in their order. So what a pattern picks in a
longer text is what it picks in a part of it, if it ends there.
-/

namespace Retrace

variable {previous : Option Char} {s t before : List Char} {x y : Way}

-- ---------------------------------------------------------------------------
-- Ways in a text that goes on
-- ---------------------------------------------------------------------------

namespace Way

/-- The same way in a text that goes on. -/
def followedBy (t : List Char) (x : Way) : Way :=
  ⟨x.text, x.rest ++ t, x.captures.map fun cap => { cap with start := cap.start ++ t }⟩

/-- Whether a way ends before the text at the end. -/
def leaves (t : List Char) (x : Way) : Bool :=
  t.length ≤ x.rest.length

@[simp] theorem followedBy_text (t : List Char) (x : Way) : (x.followedBy t).text = x.text := rfl

@[simp] theorem followedBy_rest (t : List Char) (x : Way) : (x.followedBy t).rest = x.rest ++ t :=
  rfl

@[simp] theorem followedBy_here (s t : List Char) : (here s).followedBy t = here (s ++ t) := rfl

@[simp] theorem leaves_here (s t : List Char) : (here (s ++ t)).leaves t = true := by
  simp [leaves, here]

@[simp] theorem followedBy_andThen (t : List Char) (x y : Way) :
    (x.andThen y).followedBy t = (x.followedBy t).andThen (y.followedBy t) := by
  simp [followedBy, andThen]

end Way

namespace Expr

open Way

/-- Whether an expression asks for the end of the text. -/
def asksEnd : Expr → Bool
  | .seq a b | .alt a b => a.asksEnd || b.asksEnd
  | .plus e | .group _ e => e.asksEnd
  | .textEnd => true
  | _ => false

/-- One part after another keeps the ways that end early if both parts do. -/
theorem filter_andThen {found found₀ : List Way} {next next₀ : Way → List Way}
    (first : found.filter (leaves t) = found₀.map (followedBy t))
    (shorter : ∀ x ∈ found, ∀ y ∈ next x, y.rest.length ≤ x.rest.length)
    (later : ∀ x ∈ found₀, (next (x.followedBy t)).filter (leaves t) = (next₀ x).map (followedBy t)) :
    (found.flatMap fun x => (next x).map x.andThen).filter (leaves t) =
      (found₀.flatMap fun x => (next₀ x).map x.andThen).map (followedBy t) := by
  have early : (found.flatMap fun x => (next x).map x.andThen).filter (leaves t) =
      (found.filter (leaves t)).flatMap fun x => ((next x).filter (leaves t)).map x.andThen := by
    clear first later
    induction found with
    | nil => rfl
    | cons x found ih =>
      obtain ⟨here, others⟩ := List.forall_mem_cons.1 shorter
      have parts : ((next x).map x.andThen).filter (leaves t) =
          ((next x).filter (leaves t)).map x.andThen := by
        rw [List.filter_map]
        congr 1
      rw [List.flatMap_cons, List.filter_append, parts, ih others, List.filter_cons]
      by_cases hx : x.leaves t = true
      · rw [if_pos hx, List.flatMap_cons]
      · -- What follows a way that reaches into the later text ends there as well.
        have none : (next x).filter (leaves t) = [] := by
          refine List.filter_eq_nil_iff.2 fun y hy within => hx ?_
          have := here y hy
          simp only [leaves, decide_eq_true_eq] at within ⊢
          omega
        rw [if_neg hx, none]
        rfl
  rw [early, first, List.flatMap_map, List.map_flatMap]
  refine List.flatMap_congr fun x hx => ?_
  rw [later x hx, List.map_map, List.map_map]
  simp [Function.comp_def]

theorem runs_cons_of_pos {set : Char → Bool} {c : Char} (hc : set c = true) (s : List Char) :
    runs set (c :: s) =
      (runs set s).map (fun split => (c :: split.1, split.2)) ++ [([], c :: s)] := by
  rw [runs, if_pos hc]

theorem runs_cons_of_neg {set : Char → Bool} {c : Char} (hc : ¬ set c = true) (s : List Char) :
    runs set (c :: s) = [([], c :: s)] := by
  rw [runs, if_neg hc]

theorem filter_runs (set : Char → Bool) (s t : List Char) :
    (runs set (s ++ t)).filter (fun split => decide (t.length ≤ split.2.length)) =
      (runs set s).map fun split => (split.1, split.2 ++ t) := by
  induction s with
  | nil =>
    cases t with
    | nil => rfl
    | cons c t =>
      by_cases hc : set c = true
      · have none : ((runs set t).map fun split => (c :: split.1, split.2)).filter
            (fun split => decide ((c :: t).length ≤ split.2.length)) = [] := by
          simp only [List.filter_eq_nil_iff, List.mem_map]
          rintro _ ⟨split, found, rfl⟩ leaving
          have := congrArg List.length (mem_runs_iff.1 found).1
          simp only [decide_eq_true_eq, List.length_cons, List.length_append] at leaving this
          omega
        rw [List.nil_append, runs_cons_of_pos hc, List.filter_append, none]
        simp [runs]
      · rw [List.nil_append, runs_cons_of_neg hc]
        simp [runs]
  | cons c s ih =>
    rw [List.cons_append]
    by_cases hc : set c = true
    · have same : ((fun split => decide (t.length ≤ split.2.length)) ∘
          fun split : List Char × List Char => (c :: split.1, split.2)) =
            fun split => decide (t.length ≤ split.2.length) := rfl
      rw [runs_cons_of_pos hc, runs_cons_of_pos hc, List.filter_append, List.filter_map, same, ih,
        List.map_append, List.map_map, List.map_map]
      simp [Function.comp_def, Nat.le_succ_of_le]
    · rw [runs_cons_of_neg hc, runs_cons_of_neg hc]
      simp [Nat.le_succ_of_le]

theorem repeatWays_nil {e : Expr} (fuel : Nat) (previous : Option Char) :
    repeatWays e.ways fuel previous [] = [.here []] := by
  cases fuel with
  | zero => rfl
  | succ fuel =>
    rw [repeatWays, List.append_left_eq_self, List.flatMap_eq_nil_iff]
    intro x hx
    rw [if_pos (List.append_eq_nil_iff.1 (ways_append hx)).1]

/-- Either nothing is repeated, or a way that covers something comes first. -/
theorem repeatWays_succ (body : Option Char → List Char → List Way) (fuel : Nat)
    (previous : Option Char) (s : List Char) :
    repeatWays body (fuel + 1) previous s =
      ((body previous s).flatMap fun x =>
        (if x.text = [] then [] else repeatWays body fuel (lastOf previous x.text) x.rest).map
          x.andThen) ++ [.here s] := by
  rw [repeatWays]
  congr 2
  funext x
  split <;> rfl

theorem filter_repeatWays {e : Expr}
    (early : ∀ previous s,
      (e.ways previous (s ++ t)).filter (leaves t) = (e.ways previous s).map (followedBy t))
    {fuel fuel₀ : Nat} (enough : s.length ≤ fuel) (enough₀ : s.length ≤ fuel₀) :
    (repeatWays e.ways fuel previous (s ++ t)).filter (leaves t) =
      (repeatWays e.ways fuel₀ previous s).map (followedBy t) := by
  induction fuel generalizing fuel₀ previous s with
  | zero =>
    obtain rfl := List.eq_nil_of_length_eq_zero (Nat.le_zero.1 enough)
    simpa [repeatWays, repeatWays_nil] using leaves_here [] t
  | succ fuel ih =>
    obtain ⟨fuel₀, enough₀, same⟩ : ∃ n, s.length ≤ n + 1 ∧
        repeatWays e.ways fuel₀ previous s = repeatWays e.ways (n + 1) previous s := by
      cases fuel₀ with
      | zero =>
        obtain rfl := List.eq_nil_of_length_eq_zero (Nat.le_zero.1 enough₀)
        exact ⟨0, by simp, by rw [repeatWays_nil, repeatWays_nil]⟩
      | succ n => exact ⟨n, enough₀, rfl⟩
    rw [same, repeatWays_succ, repeatWays_succ, List.filter_append, List.map_append]
    congr 1
    · refine filter_andThen (early previous s) (fun x _ y hy => ?_) fun x hx => ?_
      · split at hy
        · simp at hy
        · have covered := repeatWays_append (fun _ _ _ => ways_append) hy
          simp [← covered]
      · by_cases empty : x.text = []
        · simp [empty]
        · have covered := ways_append hx
          have := List.length_pos_iff.2 empty
          have shorter : x.rest.length < s.length := by
            rw [← covered, List.length_append]
            omega
          rw [followedBy_text, if_neg empty, if_neg empty, followedBy_rest]
          exact ih (by omega) (by omega)
    · simp

/-- Of the ways in a text that goes on, those that end early are the ways in the text. -/
theorem filter_ways {e : Expr} (free : e.asksEnd = false) (previous : Option Char)
    (s t : List Char) :
    (e.ways previous (s ++ t)).filter (leaves t) = (e.ways previous s).map (followedBy t) := by
  induction e generalizing previous s with
  | text w =>
    by_cases within : w <+: s
    · obtain ⟨rest, rfl⟩ := within
      simp [ways, leaves, followedBy]
    · simp only [ways, if_neg within, List.map_nil, List.filter_eq_nil_iff]
      intro x hx leaving
      split at hx
      · next reaching =>
        obtain rfl := List.mem_singleton.1 hx
        refine within (List.prefix_of_prefix_length_le reaching (List.prefix_append ..) ?_)
        have := reaching.length_le
        simp only [leaves, decide_eq_true_eq, List.length_drop, List.length_append] at leaving this
        omega
      · simp at hx
  | one set =>
    cases s with
    | nil =>
      cases t with
      | nil => rfl
      | cons c t =>
        simp only [ways, List.nil_append]
        split <;> simp [leaves]
    | cons c s =>
      simp only [ways, List.cons_append]
      split <;> simp [leaves, followedBy]
  | many set =>
    have same : leaves t ∘ ofSplit = fun split => decide (t.length ≤ split.2.length) := rfl
    rw [ways, ways, List.filter_map, same, filter_runs, List.map_map, List.map_map]
    rfl
  | seq a b iha ihb =>
    simp only [asksEnd, Bool.or_eq_false_iff] at free
    refine filter_andThen (iha free.1 previous s) (fun x _ y hy => ?_) fun x _ => ?_
    · simp [← ways_append hy]
    · exact ihb free.2 _ _
  | alt a b iha ihb =>
    simp only [asksEnd, Bool.or_eq_false_iff] at free
    simp only [ways, List.filter_append, List.map_append, iha free.1, ihb free.2]
  | plus e ih =>
    refine filter_andThen (ih free previous s) (fun x _ y hy => ?_) fun x hx => ?_
    · have covered := repeatWays_append (fun _ _ _ => ways_append) hy
      simp [← covered]
    · have short : x.rest.length ≤ s.length := by simp [← ways_append hx]
      refine filter_repeatWays (fun previous s => ih free previous s) ?_ short
      simp only [List.length_append]
      omega
  | group n e ih =>
    have same : (leaves t ∘ fun x : Way =>
        { x with captures := ⟨n, s ++ t, x.text.length⟩ :: x.captures }) = leaves t := rfl
    rw [ways, ways, List.filter_map, same, ih free, List.map_map, List.map_map]
    rfl
  | lineStart =>
    simp only [ways]
    split <;> simp
  | textStart =>
    simp only [ways]
    split <;> simp
  | textEnd => simp [asksEnd] at free

-- ---------------------------------------------------------------------------
-- Searching in a text that goes on
-- ---------------------------------------------------------------------------

variable {e : Expr}

theorem followedBy_mem_ways (free : e.asksEnd = false) (h : x ∈ e.ways previous s)
    (t : List Char) : x.followedBy t ∈ e.ways previous (s ++ t) := by
  have kept : x.followedBy t ∈ (e.ways previous (s ++ t)).filter (leaves t) := by
    rw [filter_ways free]
    exact List.mem_map_of_mem h
  exact List.mem_of_mem_filter kept

/-- Later text does not change what a group covers. -/
theorem group?_followedBy (h : x ∈ e.ways previous s) (t : List Char) (n : Nat) :
    (x.followedBy t).group? n = x.group? n := by
  simp only [Way.group?, Captures.text?, followedBy, List.find?_map, Function.comp_def,
    Option.map_map]
  refine Option.map_congr fun cap hc => ?_
  have inside := (captured_of_mem_ways h (List.mem_of_find?_eq_some hc)).2
  exact List.take_append_of_le_length inside

theorem Picks.exists_used (picks : e.Picks (s ++ t) before x)
    (reaches : s.length < before.length + x.text.length) :
    ∃ used, before ++ x.text = s ++ used ∧ used ++ x.rest = t := by
  have whole : (before ++ x.text) ++ x.rest = s ++ t := by simpa using picks.text_eq
  rcases List.append_eq_append_iff.1 whole with ⟨left, short, -⟩ | ⟨used, covered, rest_eq⟩
  · have := congrArg List.length short
    simp only [List.length_append] at this
    omega
  · exact ⟨used, covered, rest_eq.symm⟩

/-- What is picked in a longer text begins no later than what is picked in its beginning. -/
theorem Picks.le_of_append (free : e.asksEnd = false) {early : List Char}
    (picks : e.Picks (s ++ t) early x) (part : e.Picks s before y) :
    early.length ≤ before.length := by
  have fits : (y.followedBy t) ∈ e.ways before.getLast? (y.text ++ y.rest ++ t) :=
    followedBy_mem_ways free (List.mem_of_mem_head? part.first_eq) t
  refine picks.leftmost ?_ (fits_of_mem_ways fits)
  rw [followedBy_text, followedBy_rest, ← part.text_eq]
  simp

/-- What is picked in a longer text is picked in its beginning as well, if it ends there. -/
theorem Picks.of_append (free : e.asksEnd = false) (picks : e.Picks (s ++ t) before x)
    (within : before.length + x.text.length ≤ s.length) :
    ∃ y, e.Picks s before y ∧ x = y.followedBy t := by
  obtain ⟨rest, rest_eq, rfl⟩ : ∃ rest, x.rest = rest ++ t ∧ s = before ++ (x.text ++ rest) := by
    have whole : (before ++ x.text) ++ x.rest = s ++ t := by simpa using picks.text_eq
    rcases List.append_eq_append_iff.1 whole with ⟨rest, rfl, rest_eq⟩ | ⟨more, covered, rfl⟩
    · exact ⟨rest, rest_eq, by simp⟩
    · have nothing : more = [] := by
        have := congrArg List.length covered
        simp only [List.length_append] at this
        exact List.eq_nil_of_length_eq_zero (by omega)
      subst nothing
      exact ⟨[], rfl, by simpa using covered.symm⟩
  have first := picks.first_eq
  rw [rest_eq, ← List.append_assoc] at first
  have leaving : x.leaves t = true := by simp [leaves, rest_eq]
  have kept := filter_ways free before.getLast? (x.text ++ rest) t
  obtain ⟨others, found⟩ := List.head?_eq_some_iff.1 first
  rw [found, List.filter_cons_of_pos leaving] at kept
  obtain ⟨y, later, found₀, rfl, -⟩ := List.map_eq_cons_iff.1 kept.symm
  obtain rfl : y.rest = rest := List.append_cancel_right rest_eq
  refine ⟨y, ⟨rfl, ?_, fun a c b cut => ?_⟩, rfl⟩
  · rw [first?, ← followedBy_text t y, found₀, List.head?_cons]
  · have none := filter_ways free (lastOf Option.none a) (c :: (b ++ (y.text ++ y.rest))) t
    have missed := picks.misses a c b cut
    rw [followedBy_text, followedBy_rest] at missed
    simp only [List.cons_append, List.append_assoc, missed] at none
    exact List.map_eq_nil_iff.1 none.symm

end Expr

/-- If what is found in a longer text, if anything, ends in its beginning, it is found there. -/
theorem Pattern.find?_append_of_within {p : Pattern} (free : p.expr.asksEnd = false)
    (within : ∀ m, p.find? (s ++ t) = some m → m.start + m.text.length ≤ s.length) :
    (p.find? (s ++ t)).map Match.group? = (p.find? s).map Match.group? := by
  cases joined : p.find? (s ++ t) with
  | some m =>
    have ends := within m joined
    obtain ⟨before, x, picks, rfl⟩ := exists_picks_of_find? joined
    obtain ⟨y, part, rfl⟩ := picks.of_append free ends
    rw [find?_of_picks part]
    simp only [Option.map_some, Option.some.injEq]
    funext n
    exact Expr.group?_followedBy (List.mem_of_mem_head? part.first_eq) t n
  | none =>
    cases alone : p.find? s with
    | none => rfl
    | some m =>
      obtain ⟨before, y, part, -⟩ := exists_picks_of_find? alone
      have way := Expr.followedBy_mem_ways free (List.mem_of_mem_head? part.first_eq) t
      refine absurd (Expr.fits_of_mem_ways way) (find?_eq_none_iff_fits.1 joined _ _ _ ?_)
      rw [Way.followedBy_text, Way.followedBy_rest, ← part.text_eq]
      simp

end Retrace
