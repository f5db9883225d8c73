import Mathlib.Tactic.Linarith
import Mathlib.Tactic.NormNum
import Mathlib.Tactic.Ring
import Retrace.Proofs.Number.Equality

/-!
# Rounding to doubles

The double nearest to a number is at most a bound if the number is at most the middle between the
last double up to the bound and the next one; the middle itself goes to the even one of the two. So
the numbers that are rounded to zero, or below any bound, are told without a rounding.
-/

namespace Retrace

-- ---------------------------------------------------------------------------
-- Powers of two
-- ---------------------------------------------------------------------------

theorem cast_twoTo (n : Nat) : ((twoTo n : Nat) : ℚ) = 2 ^ n :=
  Nat.cast_pow 2 n

theorem cast_tenTo (n : Nat) : ((tenTo n : Nat) : ℚ) = 10 ^ n :=
  Nat.cast_pow 10 n

theorem twoTo_pos (n : Nat) : 0 < twoTo n :=
  Nat.pow_pos (by decide)

theorem tenTo_pos (n : Nat) : 0 < tenTo n :=
  Nat.pow_pos (by decide)

/-- A power of any exponent is a quotient of powers with natural ones. -/
theorem pow_div_pow {b : ℚ} (nonzero : b ≠ 0) (e : Int) :
    b ^ e.toNat / b ^ (-e).toNat = b ^ e := by
  have difference : e = (e.toNat : Int) - ((-e).toNat : Int) := by omega
  conv_rhs => rw [difference, zpow_sub₀ nonzero, zpow_natCast, zpow_natCast]

/-- The quotient `n / d`, scaled by a power of two. -/
theorem scaled_div (n d : Nat) (e : Int) :
    ((n * twoTo (-e).toNat : Nat) : ℚ) / (d * twoTo e.toNat : Nat) = n / d / 2 ^ e := by
  rw [Nat.cast_mul, Nat.cast_mul, cast_twoTo, cast_twoTo, mul_div_mul_comm,
    ← pow_div_pow two_ne_zero e, div_eq_mul_inv (n / d : ℚ), inv_div]

theorem zpow_split (e : Int) (n : Nat) : (2 : ℚ) ^ (e + n) = 2 ^ n * 2 ^ e := by
  rw [zpow_add₀ two_ne_zero, zpow_natCast, mul_comm]

-- ---------------------------------------------------------------------------
-- Rounding quotients
-- ---------------------------------------------------------------------------

/-- The natural number nearest to `x`, of two nearest ones the even one, is at most `k`. -/
def NearestAtMost (x : ℚ) (k : Nat) : Prop :=
  x < k + 1 / 2 ∨ x = k + 1 / 2 ∧ k % 2 = 0

theorem NearestAtMost.of_le {x : ℚ} {k : Nat} (h : x ≤ k) : NearestAtMost x k :=
  .inl (by linarith)

theorem nearestAtMost_iff_of_even {x : ℚ} {k : Nat} (even : k % 2 = 0) :
    NearestAtMost x k ↔ x ≤ k + 1 / 2 := by
  rw [NearestAtMost, and_iff_left even, le_iff_lt_or_eq]

theorem NearestAtMost.lt {x : ℚ} {k : Nat} (h : NearestAtMost x k) : x < k + 1 := by
  rcases h with below | ⟨middle, -⟩ <;> linarith

theorem roundToEven_le_iff {n d : Nat} (positive : 0 < d) (k : Nat) :
    roundToEven n d ≤ k ↔ NearestAtMost (n / d) k := by
  have cut := Nat.div_add_mod n d
  have rest := Nat.mod_lt n positive
  have positive' : (0 : ℚ) < d := Nat.cast_pos.2 positive
  -- With the quotient cleared, the middle above `k` is `(2 * k + 1) * d / 2`.
  have below : (n / d : ℚ) < k + 1 / 2 ↔ 2 * n < 2 * (d * k) + d := by
    rw [div_lt_iff₀ positive', ← @Nat.cast_lt ℚ]
    push_cast
    constructor <;> intro h <;> linarith
  have middle : (n / d : ℚ) = k + 1 / 2 ↔ 2 * n = 2 * (d * k) + d := by
    rw [div_eq_iff positive'.ne', ← @Nat.cast_inj ℚ]
    push_cast
    constructor <;> intro h <;> linarith
  rw [NearestAtMost, below, middle]
  unfold roundToEven
  dsimp only
  rcases Nat.lt_trichotomy (n / d) k with below | same | above
  · have reach : d * (n / d + 1) ≤ d * k := Nat.mul_le_mul_left d below
    rw [Nat.mul_add, Nat.mul_one] at reach
    split_ifs <;> omega
  · rw [same] at cut
    split_ifs <;> omega
  · have reach : d * (k + 1) ≤ d * (n / d) := Nat.mul_le_mul_left d above
    rw [Nat.mul_add, Nat.mul_one] at reach
    split_ifs <;> omega

-- ---------------------------------------------------------------------------
-- Magnitudes
-- ---------------------------------------------------------------------------

/-- The power of two at a quotient. -/
theorem le_div_iff_scaled {n d : Nat} (positive : 0 < d) (e : Int) :
    d * twoTo e.toNat ≤ n * twoTo (-e).toNat ↔ (2 : ℚ) ^ e ≤ n / d := by
  have positive' : (0 : ℚ) < (d * twoTo e.toNat : Nat) :=
    Nat.cast_pos.2 (Nat.mul_pos positive (twoTo_pos _))
  rw [← @Nat.cast_le ℚ, ← one_le_div positive', scaled_div, one_le_div (by positivity)]

theorem floorLog2_bounds {n d : Nat} (nonzero : n ≠ 0) (positive : 0 < d) :
    (2 : ℚ) ^ floorLog2 n d ≤ n / d ∧ (n / d : ℚ) < 2 ^ (floorLog2 n d + 1) := by
  have positive' : (0 : ℚ) < d := Nat.cast_pos.2 positive
  have n_least : (2 : ℚ) ^ n.log2 ≤ n := by exact_mod_cast Nat.log2_self_le nonzero
  have n_most : (n : ℚ) < 2 ^ (n.log2 + 1) := by exact_mod_cast Nat.lt_log2_self
  have d_least : (2 : ℚ) ^ d.log2 ≤ d := by exact_mod_cast Nat.log2_self_le positive.ne'
  have d_most : (d : ℚ) < 2 ^ (d.log2 + 1) := by exact_mod_cast Nat.lt_log2_self
  have least : (2 : ℚ) ^ ((n.log2 : Int) - d.log2 - 1) ≤ n / d := by
    have split : (n.log2 : Int) - d.log2 - 1 = n.log2 - (d.log2 + 1 : Nat) := by omega
    rw [split, zpow_sub₀ two_ne_zero, zpow_natCast, zpow_natCast]
    gcongr
  have most : (n / d : ℚ) < 2 ^ ((n.log2 : Int) - d.log2 + 1) := by
    have split : (n.log2 : Int) - d.log2 + 1 = (n.log2 + 1 : Nat) - d.log2 := by omega
    rw [split, zpow_sub₀ two_ne_zero, zpow_natCast, zpow_natCast]
    gcongr
  unfold floorLog2
  dsimp only
  split
  · next high => exact ⟨(le_div_iff_scaled positive _).1 high, most⟩
  · next low =>
    rw [le_div_iff_scaled positive, not_le] at low
    exact ⟨least, by rwa [sub_add_cancel]⟩

namespace Binary64

variable {n d s S : Nat} {e E : Int} {T : ℚ} {x : Binary64}

/-- The magnitude of a finite number is at most a bound. -/
def AtMost (x : Binary64) (bound : ℚ) : Prop :=
  ∃ negative s e, x = .finite negative s e ∧ (s : ℚ) * 2 ^ e ≤ bound

theorem atMost_finite {negative : Bool} :
    (finite negative s e).AtMost T ↔ (s : ℚ) * 2 ^ e ≤ T := by
  constructor
  · rintro ⟨_, _, _, written, bounded⟩
    obtain ⟨-, rfl, rfl⟩ := Binary64.finite.inj written
    exact bounded
  · exact fun bounded => ⟨_, _, _, rfl, bounded⟩

/-- The number `S * 2 ^ E` is the last double up to a bound. -/
structure LastUpTo (bound : ℚ) (S : Nat) (E : Int) : Prop where
  significand_lt : S < 2 ^ 53
  exponent_ge : minExponent ≤ E
  /-- Only the smallest doubles have a smaller significand. -/
  normal : E = minExponent ∨ 2 ^ 52 ≤ S
  bound_ge : (S : ℚ) * 2 ^ E ≤ bound
  bound_lt : bound < (S + 1) * 2 ^ E

/-- The exponent of the double nearest to `n / d`, before a carry. -/
def exponentOf (n d : Nat) : Int :=
  max (floorLog2 n d - 52) minExponent

/-- The significand of the double nearest to `n / d`, before a carry. -/
def significandOf (n d : Nat) : Nat :=
  roundToEven (n * twoTo (-exponentOf n d).toNat) (d * twoTo (exponentOf n d).toNat)

theorem significandOf_le_iff (positive : 0 < d) (k : Nat) :
    significandOf n d ≤ k ↔ NearestAtMost (n / d / 2 ^ exponentOf n d) k := by
  rw [significandOf, roundToEven_le_iff (Nat.mul_pos positive (twoTo_pos _)), scaled_div]

/-- A significand of 53 bits is enough. -/
theorem div_lt_of_exponentOf (nonzero : n ≠ 0) (positive : 0 < d) :
    (n / d : ℚ) < 2 ^ 53 * 2 ^ exponentOf n d := by
  rw [← zpow_split]
  refine (floorLog2_bounds nonzero positive).2.trans_le (zpow_le_zpow_right₀ one_le_two ?_)
  unfold exponentOf
  omega

/-- Above the least exponent it has no fewer. -/
theorem le_div_of_exponentOf (nonzero : n ≠ 0) (positive : 0 < d)
    (above : minExponent < exponentOf n d) : (2 ^ 52 * 2 ^ exponentOf n d : ℚ) ≤ n / d := by
  rw [← zpow_split]
  refine (zpow_le_zpow_right₀ one_le_two ?_).trans (floorLog2_bounds nonzero positive).1
  unfold exponentOf at above ⊢
  omega

theorem significandOf_le (nonzero : n ≠ 0) (positive : 0 < d) : significandOf n d ≤ 2 ^ 53 := by
  rw [significandOf_le_iff positive]
  refine .of_le ?_
  rw [div_le_iff₀ (by positivity)]
  exact_mod_cast (div_lt_of_exponentOf nonzero positive).le

theorem le_significandOf (nonzero : n ≠ 0) (positive : 0 < d)
    (above : minExponent < exponentOf n d) : 2 ^ 52 ≤ significandOf n d := by
  by_contra small
  have small : significandOf n d ≤ 2 ^ 52 - 1 := by omega
  have below := ((significandOf_le_iff positive _).1 small).lt
  rw [div_lt_iff₀ (by positivity)] at below
  have reach := le_div_of_exponentOf nonzero positive above
  norm_num at below reach
  linarith

theorem ofRatio_eq (negative : Bool) (nonzero : n ≠ 0) :
    ofRatio negative n d =
      if significandOf n d = 2 ^ 53 then
        if maxExponent < exponentOf n d + 1 then .infinite negative
        else .finite negative (2 ^ 52) (exponentOf n d + 1)
      else
        if maxExponent < exponentOf n d then .infinite negative
        else .finite negative (significandOf n d) (exponentOf n d) := by
  have full : twoTo 53 = 2 ^ 53 := rfl
  have half : twoTo 52 = 2 ^ 52 := rfl
  unfold ofRatio significandOf exponentOf
  rw [if_neg nonzero, full, half]
  dsimp only
  split_ifs <;> rfl

/-- A carry changes how a double is written and not what it is. -/
theorem atMost_ofRatio (negative : Bool) (nonzero : n ≠ 0) (positive : 0 < d)
    (small : T < 2 ^ maxExponent) :
    (ofRatio negative n d).AtMost T ↔ (significandOf n d : ℚ) * 2 ^ exponentOf n d ≤ T := by
  have finite (s : Nat) (e : Int)
      (same : (s : ℚ) * 2 ^ e = significandOf n d * 2 ^ exponentOf n d) :
      (Binary64.finite negative s e).AtMost T ↔
        (significandOf n d : ℚ) * 2 ^ exponentOf n d ≤ T :=
    same ▸ atMost_finite
  have infinite (some_digit : 1 ≤ significandOf n d) (large : maxExponent ≤ exponentOf n d) :
      (Binary64.infinite negative).AtMost T ↔ (significandOf n d : ℚ) * 2 ^ exponentOf n d ≤ T := by
    have beyond : (2 : ℚ) ^ maxExponent ≤ significandOf n d * 2 ^ exponentOf n d :=
      calc (2 : ℚ) ^ maxExponent ≤ 2 ^ exponentOf n d := zpow_le_zpow_right₀ one_le_two large
        _ ≤ significandOf n d * 2 ^ exponentOf n d :=
          le_mul_of_one_le_left (by positivity) (by exact_mod_cast some_digit)
    constructor
    · rintro ⟨_, _, _, same, -⟩
      cases same
    · intro bounded
      exact absurd (beyond.trans bounded) small.not_ge
  rw [ofRatio_eq negative nonzero]
  split_ifs with carry above above
  · exact infinite (by omega) (by omega)
  · refine finite _ _ ?_
    rw [carry, zpow_add_one₀ two_ne_zero]
    push_cast
    ring
  · have least : minExponent < exponentOf n d := lt_trans (by decide) above
    have reach := le_significandOf nonzero positive least
    exact infinite (by omega) above.le
  · exact finite _ _ rfl

theorem two_mul_zpow_le {e f : Int} (lower : e < f) : (2 : ℚ) * 2 ^ e ≤ 2 ^ f := by
  rw [mul_comm, ← zpow_add_one₀ two_ne_zero]
  exact zpow_le_zpow_right₀ one_le_two lower

/-- Every double with a smaller exponent is up to the bound: none is beyond `2 ^ 52 * 2 ^ E`. -/
theorem LastUpTo.scaled_le (last : LastUpTo T S E) (least : minExponent ≤ e) (below : e < E) :
    (2 ^ 53 : ℚ) * 2 ^ e ≤ S * 2 ^ E := by
  have normal : 2 ^ 52 ≤ S := last.normal.resolve_left fun smallest => by omega
  have normal : (2 ^ 52 : ℚ) ≤ S := by exact_mod_cast normal
  have wide := two_mul_zpow_le below
  calc (2 ^ 53 : ℚ) * 2 ^ e = 2 ^ 52 * (2 * 2 ^ e) := by ring
    _ ≤ S * 2 ^ E := by gcongr

/-- No double of 53 bits with a greater exponent is: all begin at `2 ^ 53 * 2 ^ E`. -/
theorem LastUpTo.le_scaled (last : LastUpTo T S E) (above : E < e) :
    (S + 1) * 2 ^ E ≤ (2 ^ 52 : ℚ) * 2 ^ e := by
  have S_lt : (S + 1 : ℚ) ≤ 2 ^ 53 := by exact_mod_cast last.significand_lt
  have wide := two_mul_zpow_le above
  calc (S + 1) * (2 : ℚ) ^ E ≤ 2 ^ 53 * 2 ^ E := by gcongr
    _ = 2 ^ 52 * (2 * 2 ^ E) := by ring
    _ ≤ 2 ^ 52 * 2 ^ e := by gcongr

/-- The double nearest to a number is at most a bound if the number is at most the middle above the
last double up to the bound. -/
theorem atMost_ofRatio_iff (negative : Bool) (positive : 0 < d) (last : LastUpTo T S E)
    (small : T < 2 ^ maxExponent) :
    (ofRatio negative n d).AtMost T ↔ NearestAtMost (n / d / 2 ^ E) S := by
  have unit : (0 : ℚ) < 2 ^ E := by positivity
  by_cases nonzero : n = 0
  · subst nonzero
    have bound : 0 ≤ T := (mul_nonneg S.cast_nonneg unit.le).trans last.bound_ge
    exact iff_of_true ⟨negative, 0, minExponent, rfl, by simpa using bound⟩ (.of_le (by simp))
  rw [atMost_ofRatio negative nonzero positive small]
  rcases lt_trichotomy (exponentOf n d) E with below | same | above
  · -- The number and its double are both up to the bound.
    have scaled := last.scaled_le (le_max_right _ _) below
    have number := (div_lt_of_exponentOf nonzero positive).le
    have significand : (significandOf n d : ℚ) ≤ 2 ^ 53 := by
      exact_mod_cast significandOf_le nonzero positive
    refine iff_of_true ?_ (.of_le ?_)
    · calc (significandOf n d : ℚ) * 2 ^ exponentOf n d
          ≤ 2 ^ 53 * 2 ^ exponentOf n d := by gcongr
        _ ≤ T := scaled.trans last.bound_ge
    · rw [div_le_iff₀ unit]
      exact number.trans scaled
  · rw [← same, ← significandOf_le_iff positive, same]
    constructor
    · intro bounded
      have next := (mul_lt_mul_iff_left₀ unit).1 (bounded.trans_lt last.bound_lt)
      exact Nat.lt_succ_iff.1 (by exact_mod_cast next)
    · intro bounded
      refine le_trans ?_ last.bound_ge
      gcongr
  · -- Both are beyond the bound.
    have least : minExponent < exponentOf n d := last.exponent_ge.trans_lt above
    have scaled := last.le_scaled above
    have number := le_div_of_exponentOf nonzero positive least
    have significand : (2 ^ 52 : ℚ) ≤ significandOf n d := by
      exact_mod_cast le_significandOf nonzero positive least
    refine iff_of_false (not_le.2 ?_) fun nearest => ?_
    · calc T < (S + 1) * 2 ^ E := last.bound_lt
        _ ≤ 2 ^ 52 * 2 ^ exponentOf n d := scaled
        _ ≤ significandOf n d * 2 ^ exponentOf n d := by gcongr
    · have below := nearest.lt
      rw [div_lt_iff₀ unit] at below
      exact absurd (scaled.trans number) below.not_ge

-- ---------------------------------------------------------------------------
-- Decimals
-- ---------------------------------------------------------------------------

variable {c : Nat} {k : Int}

theorem decimalLength_bounds (nonzero : c ≠ 0) :
    (10 : ℚ) ^ (decimalLength c + k - 1) ≤ c * 10 ^ k ∧
      (c * 10 ^ k : ℚ) < 10 ^ (decimalLength c + k) := by
  have ten : (10 : ℚ) ≠ 0 := by norm_num
  have unit : (0 : ℚ) < 10 ^ k := by positivity
  have length : decimalLength c = (Nat.toDigits 10 c).length := if_neg nonzero
  have positive : 0 < decimalLength c := length ▸ Nat.length_toDigits_pos
  have most : c < 10 ^ decimalLength c :=
    (Nat.length_toDigits_le_iff (by decide) positive).1 length.ge
  have least : 10 ^ (decimalLength c - 1) ≤ c := by
    rcases Nat.eq_zero_or_pos (decimalLength c - 1) with one | more
    · rw [one]
      omega
    · by_contra small
      have shorter := (Nat.length_toDigits_le_iff (by decide) more).2 (not_le.1 small)
      omega
  have split : (decimalLength c + k - 1 : Int) = (decimalLength c - 1 : Nat) + k := by omega
  rw [split, zpow_add₀ ten, zpow_add₀ ten, zpow_natCast, zpow_natCast]
  constructor
  · gcongr
    exact_mod_cast least
  · gcongr
    exact_mod_cast most

theorem ofRatio_decimal (c : Nat) (k : Int) :
    ((c * tenTo k.toNat : Nat) : ℚ) / (tenTo (-k).toNat : Nat) = c * 10 ^ k := by
  have ten : (10 : ℚ) ≠ 0 := by norm_num
  rw [Nat.cast_mul, cast_tenTo, cast_tenTo, mul_div_assoc, pow_div_pow ten]

/-- The unit of a double up to a bound below one is at least the least one and at most one. -/
theorem LastUpTo.unit_bounds (last : LastUpTo T S E) (small : T < 1) :
    (2 : ℚ) ^ minExponent ≤ 2 ^ E ∧ (2 : ℚ) ^ E ≤ 1 := by
  refine ⟨zpow_le_zpow_right₀ one_le_two last.exponent_ge, ?_⟩
  rcases last.normal with least | normal
  · rw [least]
    exact zpow_le_one_of_nonpos₀ one_le_two (by decide)
  · have digit : (1 : ℚ) ≤ S := by exact_mod_cast Nat.le_trans (by decide) normal
    calc (2 : ℚ) ^ E ≤ S * 2 ^ E := le_mul_of_one_le_left (by positivity) digit
      _ ≤ 1 := (last.bound_ge.trans_lt small).le

/-- A decimal of this magnitude is nearest to zero. -/
theorem tiny_of_magnitude (small : c = 0 ∨ decimalLength c + k < -330) :
    (c * 10 ^ k : ℚ) < 2 ^ minExponent / 2 := by
  rcases Nat.eq_zero_or_pos c with rfl | nonzero
  · rw [Nat.cast_zero, zero_mul]
    positivity
  · have magnitude : decimalLength c + k ≤ -331 := by omega
    have powers : (2 : ℚ) ^ 1075 ≤ 10 ^ 331 := by
      exact_mod_cast (by decide +kernel : 2 ^ 1075 ≤ 10 ^ 331)
    calc (c * 10 ^ k : ℚ) < 10 ^ (decimalLength c + k) := (decimalLength_bounds nonzero.ne').2
      _ ≤ 10 ^ (-(331 : Nat) : Int) := zpow_le_zpow_right₀ (by norm_num) magnitude
      _ ≤ 2 ^ (-(1075 : Nat) : Int) := by
        rw [zpow_neg, zpow_neg, zpow_natCast, zpow_natCast]
        exact inv_anti₀ (by positivity) powers
      _ = 2 ^ minExponent / 2 := by
        rw [div_eq_mul_inv, ← zpow_sub_one₀ two_ne_zero]
        rfl

/-- Of a decimal too the nearest double is at most a bound if the decimal is at most the middle above
the last double up to the bound. That very small and very large ones are not computed makes no
difference. -/
theorem atMost_ofDecimal_iff (negative : Bool) (last : LastUpTo T S E) (small : T < 1) :
    (ofDecimal negative c k).AtMost T ↔ NearestAtMost (c * 10 ^ k / 2 ^ E) S := by
  have unit : (0 : ℚ) < 2 ^ E := by positivity
  obtain ⟨unit_ge, unit_le⟩ := last.unit_bounds small
  unfold ofDecimal
  dsimp only
  split_ifs with low high
  · have bound : 0 ≤ T := (mul_nonneg S.cast_nonneg unit.le).trans last.bound_ge
    refine iff_of_true ⟨negative, 0, minExponent, rfl, by simpa using bound⟩ (.inl ?_)
    have tiny := tiny_of_magnitude low
    rw [div_lt_iff₀ unit]
    have doubled : 0 ≤ S * (2 : ℚ) ^ E := mul_nonneg S.cast_nonneg unit.le
    linarith
  · have nonzero : c ≠ 0 := fun zero => low (.inl zero)
    refine iff_of_false ?_ fun nearest => ?_
    · rintro ⟨_, _, _, same, -⟩
      cases same
    · have below := nearest.lt
      have beyond : (10 : ℚ) ^ (1 : Int) ≤ c * 10 ^ k :=
        (zpow_le_zpow_right₀ (by norm_num) (by omega)).trans (decimalLength_bounds nonzero).1
      rw [div_lt_iff₀ unit] at below
      have reach := last.bound_ge
      rw [zpow_one] at beyond
      linarith
  · have range : (1 : ℚ) ≤ 2 ^ maxExponent := one_le_zpow₀ one_le_two (by decide)
    rw [atMost_ofRatio_iff negative (tenTo_pos _) last (small.trans_le range), ofRatio_decimal]

variable {a negative : Bool}

/-- Rounding keeps the sign, of zero and of infinity too. -/
theorem sign_ofRatio (h : ofRatio negative n d = .finite a s e) : a = negative := by
  by_cases nonzero : n = 0
  · rw [ofRatio, if_pos nonzero] at h
    exact (Binary64.finite.inj h).1.symm
  · rw [ofRatio_eq negative nonzero] at h
    split_ifs at h <;> cases h <;> rfl

theorem sign_ofDecimal (h : ofDecimal negative c k = .finite a s e) : a = negative := by
  unfold ofDecimal at h
  dsimp only at h
  split at h
  · exact (Binary64.finite.inj h).1.symm
  · split at h
    · cases h
    · exact sign_ofRatio h

end Binary64
end Retrace
