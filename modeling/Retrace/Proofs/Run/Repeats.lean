import Retrace.Proofs.Run.Unique
import Retrace.Proofs.Value.Nan

/-!
# Variables that do not change

A variable that is printed as the same text again has not changed, and is not
recorded again, unless the text is read as what is no number or as an array with
that inside. Such a value equals nothing that was kept, so it is kept each time
and is never found to be a repetition.
-/

namespace Retrace.VariableHistory

open Value (NanText)

variable {name : String} {held : List Value} {last : Option Value} {v : Value}

-- ---------------------------------------------------------------------------
-- One value, again and again
-- ---------------------------------------------------------------------------

theorem news_replicate_of_nan (nan : v.hasNan = true) (last : Option Value) (n : Nat) :
    news last (.replicate n v) = .replicate n v := by
  induction n generalizing last with
  | zero => rfl
  | succ n ih =>
    have unlike : last.any (·.agrees v) = false := by
      cases last with
      | none => rfl
      | some u => exact Value.agrees_of_hasNan nan u
    rw [List.replicate_succ, news, if_neg (by simp [unlike]), ih]

theorem news_replicate_of_agrees (alike : last.any (·.agrees v) = true) (n : Nat) :
    news last (.replicate n v) = [] := by
  induction n with
  | zero => rfl
  | succ n ih => rw [List.replicate_succ, news, if_pos alike, ih]

/-- A value that comes again and again is new once, unless it is never known again. -/
theorem news_replicate (last : Option Value) (v : Value) (n : Nat) :
    news last (.replicate n v) =
      if v.hasNan then .replicate n v
      else if last.any (·.agrees v) then []
      else (List.replicate n v).take 1 := by
  split
  · next nan => exact news_replicate_of_nan nan last n
  split
  · next alike => exact news_replicate_of_agrees alike n
  · next number unlike =>
    cases n with
    | zero => rfl
    | succ n =>
      have known : (some v).any (·.agrees v) = true := by
        simpa [Value.agrees_self] using number
      rw [List.replicate_succ, news, if_neg unlike, news_replicate_of_agrees known]
      rfl

-- ---------------------------------------------------------------------------
-- Values that are printed
-- ---------------------------------------------------------------------------

/-- Beside the distinct values of what was held, the values of some of the texts are left, among them
those of every text that tells no number. -/
theorem exists_distinct_append_map (held : List Value) (tokens : List String) :
    ∃ kept : List String, kept.Sublist tokens ∧
      distinct (held ++ tokens.map Value.parse) = distinct held ++ kept.map Value.parse ∧
      ∀ token, (Value.parse token).hasNan = true → kept.count token = tokens.count token := by
  induction tokens using List.reverseRecOn with
  | nil => exact ⟨[], .slnil, by simp, fun _ _ => rfl⟩
  | append_singleton tokens last ih =>
    obtain ⟨kept, sublist, values, counts⟩ := ih
    rw [List.map_append, ← List.append_assoc, List.map_singleton, distinct_concat, values]
    split
    · next known =>
      obtain ⟨u, -, alike⟩ := List.any_eq_true.1 known
      refine ⟨kept, sublist.trans (List.sublist_append_left ..), rfl, fun token nan => ?_⟩
      -- The last value agrees with a known one, so it is not one that agrees with nothing.
      have other : last ≠ token := by
        rintro rfl
        rw [Value.agrees_of_hasNan nan] at alike
        cases alike
      rw [counts token nan, List.count_append, List.count_singleton, beq_false_of_ne other]
      rfl
    · refine ⟨kept ++ [last], sublist.append_right [last], by simp, fun token nan => ?_⟩
      rw [List.count_append, List.count_append, counts token nan]

/-- A text whose value agrees with itself was not kept more often than its value. -/
theorem count_le_countP (held : List Value) (kept : List String) {token : String}
    (number : (Value.parse token).hasNan = false) :
    kept.count token ≤ (held ++ kept.map Value.parse).countP (·.agrees (.parse token)) := by
  have self : (Value.parse token).agrees (.parse token) = true := by
    rw [Value.agrees_self, number]
    rfl
  calc kept.count token
      ≤ kept.countP fun other => (Value.parse other).agrees (.parse token) :=
        List.countP_mono_left fun other _ same => by rwa [eq_of_beq same]
    _ = (kept.map Value.parse).countP (·.agrees (.parse token)) := by
        rw [List.countP_map]
        rfl
    _ ≤ (held ++ kept.map Value.parse).countP (·.agrees (.parse token)) := by
        rw [List.countP_append]
        exact Nat.le_add_left ..

/-- The value of a text that is printed again and again is recorded once at most, and one entry at
most is left of it among distinct values, unless the text tells what is no number. Then each time is
recorded, and each stays. -/
theorem recorded_of_tokens (h : VariableHistory) (name : String) :
    (∀ token : String, (Value.parse token).hasNan = true ↔ NanText token.toList) ∧
    (∀ (token : String) (n : Nat),
      ((h.observeAll (.replicate n (name, .parse token))).get? name).getD [] =
        (h.get? name).getD [] ++
          if (Value.parse token).hasNan then .replicate n (.parse token)
          else if ((h.get? name).getD []).getLast?.any (·.agrees (.parse token)) then []
          else (List.replicate n (.parse token)).take 1) ∧
    ∀ tokens : List (String × String), ∃ kept : List String,
      kept.Sublist (observed name tokens) ∧
      (((h.observeAll (tokens.map (.map id Value.parse))).unique.get? name).getD [] =
        distinct ((h.get? name).getD []) ++ kept.map Value.parse) ∧
      ∀ token : String,
        if (Value.parse token).hasNan then kept.count token = (observed name tokens).count token
        else kept.count token ≤ 1 ∧
          (distinct ((h.get? name).getD []) ++ kept.map Value.parse).countP
            (·.agrees (.parse token)) ≤ 1 := by
  refine ⟨fun token => Value.hasNan_read_iff, fun token n => ?_, fun tokens => ?_⟩
  · have again : observed name (.replicate n (name, .parse token)) =
        .replicate n (Value.parse token) := by simp [observed]
    rw [getD_observeAll, again, foldl_append_eq, news_replicate]
  · have told : observed name (tokens.map (.map id Value.parse)) =
        (observed name tokens).map Value.parse := by
      simp [observed, List.filter_map, Function.comp_def]
    obtain ⟨kept, sublist, values, counts⟩ :=
      exists_distinct_append_map ((h.get? name).getD []) (observed name tokens)
    refine ⟨kept, sublist, ?_, fun token => ?_⟩
    · rw [get?_unique, ← values, ← told, ← distinct_foldl_append, ← getD_observeAll]
      cases (h.observeAll (tokens.map (.map id Value.parse))).get? name <;> rfl
    · -- No two of the entries agree, so at most one agrees with the value of a text.
      have apart := (firsts_distinct
        ((h.get? name).getD [] ++ (observed name tokens).map Value.parse)).pairwise
      rw [values] at apart
      have few := countP_agrees_le_one apart (.parse token)
      split
      · next nan => exact counts token nan
      · next number =>
        exact ⟨(count_le_countP _ kept (Bool.eq_false_of_not_eq_true number)).trans few, few⟩

theorem parse_nan : Value.parse "NaN" = .float .nan :=
  Value.read_of_isNan (.head _) rfl

/-- What is no number is recorded twice if it is observed twice, and both stay. -/
theorem recorded_nan_again :
    (observeAll {} (.replicate 2 ("x", .parse "NaN"))).get? "x" =
        some [.float .nan, .float .nan] ∧
      (observeAll {} (.replicate 2 ("x", .parse "NaN"))).unique.get? "x" =
        some [.float .nan, .float .nan] := by
  rw [parse_nan]
  exact ⟨rfl, rfl⟩

end Retrace.VariableHistory
