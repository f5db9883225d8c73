import Retrace.Config
import Retrace.Proofs.Number.Written

/-!
# Timeouts from the environment

A text that sets the timeout has to be a number of seconds above zero. The double is what is above
zero, and it is rounded to nanoseconds only afterwards: less than half a nanosecond is accepted, and
nothing is left of it.
-/

namespace Retrace

-- ---------------------------------------------------------------------------
-- Doubles near zero
-- ---------------------------------------------------------------------------

namespace Duration

/-- Half a nanosecond, in seconds. -/
def halfNanosecond : ℚ :=
  1 / 2 / second

/-- The double nearest to a number of seconds is above zero, and nothing is left of it in
nanoseconds: the number is above the half of the least double, and at most the middle above the last
double up to half a nanosecond. -/
def Vanishes (q : ℚ) : Prop :=
  2 ^ (-1075 : Int) < q ∧ q ≤ 9671406556917033 * 2 ^ (-84 : Int)

theorem Vanishes.pos {q : ℚ} (h : Vanishes q) : 0 < q :=
  (zpow_pos two_pos _).trans h.1

theorem second_pos : 0 < second := by decide

/-- A double of seconds is rounded to no nanoseconds up to half of one, the half itself included. -/
theorem ofBinary64?_eq_zero_iff {negative : Bool} {s : Nat} {e : Int} :
    ofBinary64? (.finite negative s e) = some ⟨0⟩ ↔
      ¬ (negative ∧ s ≠ 0) ∧ (s : ℚ) * 2 ^ e ≤ halfNanosecond := by
  have unit : (0 : ℚ) < (second : Nat) := Nat.cast_pos.2 second_pos
  have exact : ((s * twoTo e.toNat * second : Nat) : ℚ) / (twoTo (-e).toNat : Nat) =
      s * 2 ^ e * second := by
    rw [Nat.cast_mul, Nat.cast_mul, cast_twoTo, cast_twoTo, mul_right_comm, mul_div_assoc,
      pow_div_pow two_ne_zero, mul_right_comm]
  have rounded : (s : ℚ) * 2 ^ e ≤ halfNanosecond ↔
      roundToEven (s * twoTo e.toNat * second) (twoTo (-e).toNat) = 0 := by
    rw [← Nat.le_zero, roundToEven_le_iff (twoTo_pos _), nearestAtMost_iff_of_even rfl, exact,
      halfNanosecond, le_div_iff₀ unit, Nat.cast_zero, zero_add]
  have bound : 0 < twoTo 64 * second := Nat.mul_pos (twoTo_pos 64) second_pos
  rw [rounded, ofBinary64?, Option.ite_none_left_eq_some, Option.some.injEq, Duration.mk.injEq,
    not_or, not_le]
  constructor
  · rintro ⟨⟨sign, -⟩, zero⟩
    exact ⟨sign, zero⟩
  · rintro ⟨sign, zero⟩
    exact ⟨⟨sign, zero ▸ bound⟩, zero⟩

end Duration

namespace Binary64

theorem lastUpTo_zero : LastUpTo 0 0 minExponent where
  significand_lt := by decide
  exponent_ge := le_rfl
  normal := .inl rfl
  bound_ge := by simp
  bound_lt := by positivity

theorem lastUpTo_halfNanosecond : LastUpTo Duration.halfNanosecond 4835703278458516 (-83) where
  significand_lt := by decide
  exponent_ge := by decide
  normal := .inr (by decide)
  bound_ge := by norm_num [Duration.halfNanosecond, Duration.second]
  bound_lt := by norm_num [Duration.halfNanosecond, Duration.second]

/-- The decimals whose doubles vanish, told without a double. -/
theorem vanishes_iff (c : Nat) (k : Int) (negative : Bool) :
    Duration.Vanishes (c * 10 ^ k) ↔
      ¬ (ofDecimal negative c k).AtMost 0 ∧
        (ofDecimal negative c k).AtMost Duration.halfNanosecond := by
  have least : ((0 : Nat) + 1 / 2 : ℚ) * 2 ^ minExponent = 2 ^ (-1075 : Int) := by
    rw [show (-1075 : Int) = minExponent - 1 from rfl, zpow_sub_one₀ two_ne_zero]
    ring
  have most : ((4835703278458516 : Nat) + 1 / 2 : ℚ) * 2 ^ (-83 : Int) =
      9671406556917033 * 2 ^ (-84 : Int) := by
    norm_num
  have half : Duration.halfNanosecond < 1 := by
    norm_num [Duration.halfNanosecond, Duration.second]
  rw [atMost_ofDecimal_iff negative lastUpTo_zero one_pos,
    atMost_ofDecimal_iff negative lastUpTo_halfNanosecond half, nearestAtMost_iff_of_even rfl,
    nearestAtMost_iff_of_even rfl, div_le_iff₀ (by positivity), div_le_iff₀ (by positivity), least,
    most, not_le, Duration.Vanishes]

/-- The doubles of which no time is left are positive, and at most half a nanosecond. -/
theorem timeless_iff {x : Binary64} :
    x.isPositive = true ∧ Duration.ofBinary64? x = some ⟨0⟩ ↔
      (∃ m e, x = .finite false m e) ∧ ¬ x.AtMost 0 ∧ x.AtMost Duration.halfNanosecond := by
  cases x with
  | nan => simp [isPositive]
  | infinite negative => simp [Duration.ofBinary64?]
  | finite negative m e =>
    have unit : (0 : ℚ) < 2 ^ e := by positivity
    have zero : (m : ℚ) * 2 ^ e ≤ 0 ↔ m = 0 := by
      rw [← zero_mul ((2 : ℚ) ^ e), mul_le_mul_iff_left₀ unit, Nat.cast_nonpos]
    rw [Duration.ofBinary64?_eq_zero_iff, atMost_finite, atMost_finite, zero]
    cases negative with
    | true => simp [isPositive]
    | false => simp [isPositive]

end Binary64

namespace Config

variable {text : String} {config : Config} {lookup : String → Option String}

theorem readTimeout?_eq_zero_iff :
    readTimeout? text = some ⟨0⟩ ↔
      ∃ q, Numeral.Writes (Text.trim text.toList) q ∧ Duration.Vanishes q := by
  unfold readTimeout?
  constructor
  · intro read
    obtain ⟨x, filtered, zero⟩ := Option.bind_eq_some_iff.1 read
    obtain ⟨number, positive⟩ := Option.filter_eq_some_iff.1 filtered
    obtain ⟨⟨m, e, rfl⟩, above, below⟩ := Binary64.timeless_iff.1 ⟨positive, zero⟩
    obtain ⟨sign, signed, body, c, k, cut, denotes, nearest⟩ := Numeral.exists_denotes number
    rw [← nearest] at above below
    have bounds := (Binary64.vanishes_iff c k false).2 ⟨above, below⟩
    exact ⟨_, cut ▸ denotes.writes signed, bounds⟩
  · rintro ⟨q, writes, vanishes⟩
    obtain ⟨sign, signed, body, c, k, cut, denotes, rfl⟩ := writes.exists_of_pos vanishes.pos
    have bounds := (Binary64.vanishes_iff c k false).1 vanishes
    obtain ⟨negative, m, e, nearest, -⟩ := bounds.2
    obtain rfl := Binary64.sign_ofDecimal nearest
    obtain ⟨positive, zero⟩ := Binary64.timeless_iff.2 ⟨⟨m, e, nearest⟩, bounds⟩
    rw [cut, Numeral.binary64?_of_denotes signed denotes, Option.filter_some, if_pos positive]
    exact zero

/-- A positive timeout stays positive, unless the environment has the text of a number that is too
small for one nanosecond and not too small for a double. -/
theorem timeout_overlay_pos_iff (positive : 0 < config.timeout.nanoseconds) :
    0 < (config.overlay lookup).timeout.nanoseconds ↔
      ∀ text q, lookup "JDBTRACE_TIMEOUT_SECS" = some text →
        Numeral.Writes (Text.trim text.toList) q → ¬ Duration.Vanishes q := by
  change 0 < (((lookup "JDBTRACE_TIMEOUT_SECS").bind readTimeout?).getD config.timeout).nanoseconds
    ↔ _
  constructor
  · intro remains text q set writes vanishes
    rw [set, Option.bind_some, readTimeout?_eq_zero_iff.2 ⟨q, writes, vanishes⟩] at remains
    exact absurd remains (lt_irrefl 0)
  · intro fits
    cases read : (lookup "JDBTRACE_TIMEOUT_SECS").bind readTimeout? with
    | none => exact positive
    | some timeout =>
      obtain ⟨text, set, read⟩ := Option.bind_eq_some_iff.1 read
      refine Nat.pos_of_ne_zero fun nothing => ?_
      obtain rfl : timeout = ⟨0⟩ := congrArg Duration.mk nothing
      obtain ⟨q, writes, vanishes⟩ := readTimeout?_eq_zero_iff.1 read
      exact fits text q set writes vanishes

/-- A tenth of a nanosecond is above zero, and is no time at all. -/
theorem timeout_overlay_tenth :
    0 < ({} : Config).timeout.nanoseconds ∧
      ¬ 0 < (({} : Config).overlay fun name =>
        if name = "JDBTRACE_TIMEOUT_SECS" then some " 1e-10 " else none).timeout.nanoseconds := by
  have positive : 0 < ({} : Config).timeout.nanoseconds := by decide
  have written : Text.trim " 1e-10 ".toList = [] ++ (['1'] ++ 'e' :: (['-'] ++ ['1', '0'])) := by
    decide
  have minus : ['-'] ∈ Numeral.signs true := .head _
  have unsigned : [] ∈ Numeral.signs false := .head _
  have power := Numeral.Power.marked (.inl rfl : 'e' = 'e' ∨ 'e' = 'E') minus
    (by decide : ['1', '0'] ≠ []) (List.all_eq_true.1 (by decide))
  have writes := Numeral.Denotes.writes unsigned
    (.whole (by decide : ['1'] ≠ []) (List.all_eq_true.1 (by decide)) power)
  rw [← written] at writes
  refine ⟨positive, fun remains => ?_⟩
  refine (timeout_overlay_pos_iff positive).1 remains " 1e-10 " _ rfl writes ?_
  have one : Nat.ofDigitChars 10 ['1'] 0 = 1 := rfl
  have ten : Nat.ofDigitChars 10 ['1', '0'] 0 = 10 := rfl
  have least : (2 : ℚ) ^ (-1075 : Int) < 2 ^ (-40 : Int) :=
    zpow_lt_zpow_right₀ one_lt_two (by decide)
  constructor
  · refine least.trans_le ?_
    norm_num [one, ten]
  · norm_num [one, ten]

end Config
end Retrace
