import Retrace.Proofs.Number.Equality
import Retrace.Value.Basic

/-!
# Agreement of values

Agreement reaches through arrays to the numbers in them, so it is symmetric and
transitive as equality of numbers is. It is not reflexive, but a value agrees
with itself as soon as it agrees with anything.
-/

namespace Retrace.Value

mutual

theorem agrees_comm : (v w : Value) → v.agrees w = w.agrees v
  | .array items, w => by
    cases w with
    | array others => exact agreesAll_comm items others
    | _ => rfl
  | .float x, w => by
    cases w with
    | float y => exact Binary64.numEq_comm x y
    | _ => rfl
  | .null, w | .bool _, w | .int _, w | .string _, w | .reference _, w => by
    cases w <;> simp [agrees, Bool.beq_comm]

theorem agreesAll_comm :
    (items others : List Value) → agreesAll items others = agreesAll others items
  | [], [] | [], _ :: _ | _ :: _, [] => rfl
  | v :: items, w :: others => by
    rw [agreesAll, agreesAll, agrees_comm v w, agreesAll_comm items others]

end

mutual

theorem agrees_trans :
    (u v w : Value) → u.agrees v = true → v.agrees w = true → u.agrees w = true
  | .array items, v, w, first, second => by
    cases v with
    | array others =>
      cases w with
      | array more => exact agreesAll_trans items others more first second
      | _ => cases second
    | _ => cases first
  | .float x, v, w, first, second => by
    cases v with
    | float y =>
      cases w with
      | float z => exact Binary64.numEq_trans first second
      | _ => cases second
    | _ => cases first
  -- Values of the other kinds agree only with what equals them.
  | .null, v, _, first, second => by
    cases v with
    | null => exact second
    | _ => cases first
  | .bool _, v, _, first, second | .int _, v, _, first, second
  | .string _, v, _, first, second | .reference _, v, _, first, second => by
    cases v <;> simp only [agrees, beq_iff_eq, Bool.false_eq_true] at first
    subst first
    exact second

theorem agreesAll_trans : (items others more : List Value) → agreesAll items others = true →
    agreesAll others more = true → agreesAll items more = true
  | [], [], [], _, _ => rfl
  | v :: items, w :: others, x :: more, first, second => by
    simp only [agreesAll, Bool.and_eq_true] at first second ⊢
    exact ⟨agrees_trans v w x first.1 second.1, agreesAll_trans items others more first.2 second.2⟩

end

/-- What agrees with something agrees with itself. -/
theorem agrees_self_of_agrees {v w : Value} (h : v.agrees w = true) : v.agrees v = true :=
  agrees_trans v w v h (agrees_comm v w ▸ h)

/-- What contains no number agrees with nothing. -/
theorem agrees_of_hasNan {v : Value} (nan : v.hasNan = true) (u : Value) : u.agrees v = false := by
  cases same : u.agrees v with
  | false => rfl
  | true =>
    have self : v.agrees v = true := agrees_self_of_agrees (agrees_comm u v ▸ same)
    rw [agrees_self, nan] at self
    cases self

end Retrace.Value
