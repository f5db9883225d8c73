import Retrace.Trace.History
import Mathlib.Data.List.DropRight

/-!
# What a history holds

Whatever is done to a history, it holds an end of what was pushed since it was last
cleared. While a capacity stays the same it is the longest end that fits, and without
a capacity nothing is lost.
-/

namespace Retrace.History

variable {α : Type} {h : History α} {n : Nat} {l : List α}

-- ---------------------------------------------------------------------------
-- Changes
-- ---------------------------------------------------------------------------

/-- What may be done to a history. -/
inductive Change (α : Type) where
  | push (record : α)
  | setCapacity (capacity : Option Nat)
  | clear

namespace Change

def apply (h : History α) : Change α → History α
  | push record => h.push record
  | setCapacity capacity => h.setCapacity capacity
  | clear => h.clear

def clears : Change α → Bool
  | clear => true
  | _ => false

/-- The record that is pushed. -/
def record? : Change α → Option α
  | push record => some record
  | _ => none

/-- The capacity that is asked for. -/
def capacity? : Change α → Option (Option Nat)
  | setCapacity capacity => some capacity
  | _ => none

end Change

/-- The history after changes. -/
def after (h : History α) (changes : List (Change α)) : History α :=
  changes.foldl Change.apply h

/-- The records that changes push. -/
def pushed (changes : List (Change α)) : List α :=
  changes.filterMap Change.record?

/-- The changes since the last one that clears. -/
def sinceClear (changes : List (Change α)) : List (Change α) :=
  changes.rtakeWhile fun change => !change.clears

/-- The capacity that was asked for last. -/
def askedCapacity (first : Option Nat) (changes : List (Change α)) : Option Nat :=
  (changes.reverse.findSome? Change.capacity?).getD first

/-- A stretch of changes without a clear during which the capacity is always `n`. -/
structure Steady (h : History α) (n : Nat) (stretch : List (Change α)) : Prop where
  unclear : ∀ change ∈ stretch, change.clears = false
  capacity_eq : ∀ part, part <+: stretch → (h.after part).capacity = some n

/-- The records fit the capacity, which has room for one at least. -/
def Bounded (h : History α) : Prop :=
  ∀ n, h.capacity = some n → 0 < n ∧ h.size ≤ n

/-- What holds of a history to which these records were pushed since it was last cleared. -/
structure Retains (h : History α) (records : List α) : Prop where
  suffix : h.toList <:+ records
  bounded : h.Bounded
  last_push : ∀ record, (h.push record).last? = some record
  steady : ∀ n stretch, h.Steady n stretch →
    (h.after stretch).toList = (h.toList ++ pushed stretch).rtake n
  unbounded : h.capacity = none → ∀ record, (h.push record).toList = h.toList ++ [record]

theorem after_concat (h : History α) (changes : List (Change α)) (change : Change α) :
    h.after (changes ++ [change]) = change.apply (h.after changes) := by
  simp [after]

theorem sinceClear_concat (changes : List (Change α)) (change : Change α) :
    sinceClear (changes ++ [change]) =
      if change.clears then [] else sinceClear changes ++ [change] := by
  cases hc : change.clears <;> simp [sinceClear, hc]

theorem pushed_append (changes more : List (Change α)) :
    pushed (changes ++ more) = pushed changes ++ pushed more :=
  List.filterMap_append

-- ---------------------------------------------------------------------------
-- The latest items
-- ---------------------------------------------------------------------------

theorem latestOf_some (n : Nat) (items : List α) : latestOf (some n) items = items.rtake n :=
  rfl

theorem latestOf_suffix (capacity : Option Nat) (items : List α) : latestOf capacity items <:+ items := by
  cases capacity with
  | none => exact List.suffix_refl items
  | some n => exact List.drop_suffix _ _

theorem length_rtake_le (n : Nat) (items : List α) : (items.rtake n).length ≤ n := by
  simp only [List.rtake, List.length_drop]
  omega

theorem rtake_of_length_le (fits : l.length ≤ n) : l.rtake n = l := by
  simp [List.rtake, Nat.sub_eq_zero_of_le fits]

/-- Items that were dropped before more were added would be dropped after it as well. -/
theorem rtake_rtake_append (n : Nat) (items more : List α) :
    (items.rtake n ++ more).rtake n = (items ++ more).rtake n := by
  simp only [List.rtake, List.drop_append, List.drop_drop, List.length_append, List.length_drop]
  congr 2 <;> omega

theorem getLast?_latestOf_concat {capacity : Option Nat} (positive : ∀ n, capacity = some n → 0 < n)
    (items : List α) (item : α) : (latestOf capacity (items ++ [item])).getLast? = some item := by
  cases capacity with
  | none => simp [latestOf]
  | some n =>
    have room := positive n rfl
    have kept : ¬ (items ++ [item]).length ≤ (items ++ [item]).length - n := by
      simp only [List.length_append, List.length_singleton]
      omega
    rw [latestOf, List.getLast?_drop, if_neg kept, List.getLast?_concat]

-- ---------------------------------------------------------------------------
-- Views
-- ---------------------------------------------------------------------------

theorem length_toList (h : History α) : h.toList.length = h.size :=
  Array.length_toList

theorem last?_eq (h : History α) : h.last? = h.toList.getLast? := by
  simp [last?, toList]

/-- Without a capacity a record goes to the end. -/
theorem toList_push_of_unbounded (unbounded : h.capacity = none) (record : α) :
    (h.push record).toList = h.toList ++ [record] := by
  rw [toList_push, unbounded]
  rfl

theorem effective_positive {capacity : Option Nat} (hn : effective capacity = some n) : 0 < n := by
  simpa using (Option.filter_eq_some_iff.1 hn).2

-- ---------------------------------------------------------------------------
-- One change
-- ---------------------------------------------------------------------------

theorem bounded_new (capacity : Option Nat) : (new capacity : History α).Bounded := by
  intro n hn
  exact ⟨effective_positive hn, Nat.zero_le n⟩

/-- Any change but a clear keeps what fits of what was held and pushed. -/
theorem toList_apply (h : History α) {change : Change α} (unclear : change.clears = false) :
    (change.apply h).toList =
      latestOf (change.apply h).capacity (h.toList ++ pushed [change]) := by
  cases change with
  | push record => exact toList_push h record
  | setCapacity capacity =>
    have nothing : pushed [Change.setCapacity (α := α) capacity] = [] := rfl
    rw [nothing, List.append_nil]
    exact toList_setCapacity h capacity
  | clear => simp [Change.clears] at unclear

theorem Bounded.apply (bounded : h.Bounded) (change : Change α) : (change.apply h).Bounded := by
  intro n hn
  have fits (unclear : change.clears = false) : (change.apply h).size ≤ n := by
    rw [← length_toList, toList_apply h unclear, hn, latestOf_some]
    exact length_rtake_le _ _
  cases change with
  | push record => exact ⟨(bounded n hn).1, fits rfl⟩
  | setCapacity capacity => exact ⟨effective_positive hn, fits rfl⟩
  | clear => exact ⟨(bounded n hn).1, Nat.zero_le n⟩

theorem capacity_apply (h : History α) (change : Change α) :
    (change.apply h).capacity = (change.capacity?.map effective).getD h.capacity := by
  cases change <;> rfl

-- ---------------------------------------------------------------------------
-- All changes
-- ---------------------------------------------------------------------------

theorem Bounded.after (bounded : h.Bounded) (changes : List (Change α)) :
    (h.after changes).Bounded := by
  induction changes generalizing h with
  | nil => exact bounded
  | cons change changes ih => exact ih (bounded.apply change)

theorem after_suffix (capacity : Option Nat) (changes : List (Change α)) :
    ((new capacity).after changes).toList <:+ pushed (sinceClear changes) := by
  induction changes using List.reverseRecOn with
  | nil => exact List.nil_suffix
  | append_singleton changes change ih =>
    rw [after_concat, sinceClear_concat]
    cases unclear : change.clears with
    | true =>
      cases change with
      | clear => exact List.nil_suffix
      | _ => simp [Change.clears] at unclear
    | false =>
      obtain ⟨dropped, cut⟩ := ih
      rw [if_neg Bool.false_ne_true, pushed_append, ← cut, List.append_assoc,
        toList_apply _ unclear]
      exact (latestOf_suffix _ _).trans (List.suffix_append _ _)

theorem capacity_after (capacity : Option Nat) (changes : List (Change α)) :
    ((new capacity).after changes).capacity = effective (askedCapacity capacity changes) := by
  induction changes using List.reverseRecOn with
  | nil => rfl
  | append_singleton changes change ih =>
    rw [after_concat, capacity_apply, ih, askedCapacity, askedCapacity, List.reverse_concat,
      List.findSome?_cons]
    cases change.capacity? <;> rfl

theorem capacity_after_eq_some_iff {capacity : Option Nat} {changes : List (Change α)} :
    ((new capacity).after changes).capacity = some n ↔
      askedCapacity capacity changes = some n ∧ 0 < n := by
  rw [capacity_after, effective, Option.filter_eq_some_iff, decide_eq_true_eq]

/-- While the capacity stays the same, the latest records are held, as many as fit. -/
theorem Bounded.toList_steady (bounded : h.Bounded) {stretch : List (Change α)}
    (steady : h.Steady n stretch) :
    (h.after stretch).toList = (h.toList ++ pushed stretch).rtake n := by
  have fits : h.toList.length ≤ n := by
    rw [length_toList]
    exact (bounded n (steady.capacity_eq [] List.nil_prefix)).2
  induction stretch generalizing h with
  | nil =>
    have nothing : pushed ([] : List (Change α)) = [] := rfl
    rw [nothing, List.append_nil, rtake_of_length_le fits]
    rfl
  | cons change stretch ih =>
    have first : (change.apply h).capacity = some n := steady.capacity_eq [change] (by simp)
    have later : (change.apply h).Steady n stretch :=
      ⟨fun other ho => steady.unclear other (.tail _ ho),
        fun part hp => steady.capacity_eq (change :: part) (List.cons_prefix_cons.2 ⟨rfl, hp⟩)⟩
    have step : (change.apply h).toList = (h.toList ++ pushed [change]).rtake n := by
      rw [toList_apply h (steady.unclear change (.head _)), first, latestOf_some]
    have rest := ih (bounded.apply change) later (by rw [step]; exact length_rtake_le _ _)
    have together := pushed_append [change] stretch
    calc (h.after (change :: stretch)).toList
        = ((change.apply h).toList ++ pushed stretch).rtake n := rest
      _ = ((h.toList ++ pushed [change]) ++ pushed stretch).rtake n := by
          rw [step, rtake_rtake_append]
      _ = (h.toList ++ pushed (change :: stretch)).rtake n := by
          rw [List.append_assoc, ← together, List.singleton_append]

/-- Whatever is done to a new history, its capacity is the one that was asked for last, where zero
means none, and it holds an end of what was pushed since it was last cleared: no more than fits,
always the record that was pushed last, the longest end that fits as long as the capacity stays the
same, and everything that it held if there is none. -/
theorem retains_after (capacity : Option Nat) (changes : List (Change α)) :
    (∀ n, ((new capacity).after changes).capacity = some n ↔
      askedCapacity capacity changes = some n ∧ 0 < n) ∧
      ((new capacity).after changes).Retains (pushed (sinceClear changes)) := by
  have bounded := (bounded_new capacity : (new capacity : History α).Bounded).after changes
  refine ⟨fun n => capacity_after_eq_some_iff, ?_⟩
  constructor
  · exact after_suffix capacity changes
  · exact bounded
  · intro record
    rw [last?_eq, toList_push]
    exact getLast?_latestOf_concat (fun n hn => (bounded n hn).1) _ _
  · intro n stretch steady
    exact bounded.toList_steady steady
  · exact toList_push_of_unbounded

/-- Records that were dropped for lack of room do not come back, and a clear starts anew. -/
theorem retained_after_shrinking :
    ((new (some 0) : History Nat).after [.push 1, .push 2, .push 3, .setCapacity (some 2), .clear,
        .push 4, .push 5, .push 6]).Steady 2 [.push 7, .setCapacity (some 2)] ∧
      (((new (some 0) : History Nat).after [.push 1, .push 2, .push 3, .setCapacity (some 2), .clear,
        .push 4, .push 5, .push 6]).after [.push 7, .setCapacity (some 2)]).toList = [6, 7] := by
  have steady : ((new (some 0) : History Nat).after [.push 1, .push 2, .push 3, .setCapacity (some 2),
      .clear, .push 4, .push 5, .push 6]).Steady 2 [.push 7, .setCapacity (some 2)] := by
    constructor
    · simp [Change.clears]
    · intro part hp
      simp only [List.prefix_cons_iff, List.prefix_nil] at hp
      rcases hp with rfl | ⟨_, rfl, rfl | ⟨_, rfl, rfl⟩⟩ <;> rfl
  exact ⟨steady, ((retains_after (some 0) _).2.steady 2 _ steady).trans (by decide)⟩

end Retrace.History
