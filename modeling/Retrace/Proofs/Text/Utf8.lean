import Retrace.Text.Utf8
import Mathlib.Data.List.Basic

/-!
# Bytes that are cut anywhere

The bytes of a text may arrive in two parts. Whatever the place of the cut, the
first part is read as the characters that are complete in it, and what is left
over of it begins the next character.
-/

namespace Retrace.Text.Utf8

-- ---------------------------------------------------------------------------
-- One character
-- ---------------------------------------------------------------------------

/-- Bytes that lie in the ranges and add up to `n` with the payload. -/
def Follows (n : Nat) : Nat → List (Nat × Nat) → List UInt8 → Prop
  | payload, [], bytes => bytes = [] ∧ payload = n
  | _, _ :: _, [] => False
  | payload, (low, high) :: ranges, b :: bytes =>
    (low ≤ b.toNat ∧ b.toNat ≤ high) ∧ Follows n (payload * 64 + (b.toNat - 0x80)) ranges bytes

theorem follow_of_follows {n payload : Nat} {ranges : List (Nat × Nat)} {bytes : List UInt8}
    (h : Follows n payload ranges bytes) (rest : List UInt8) :
    follow payload ranges (bytes ++ rest) = .char (Char.ofNat n) rest := by
  induction ranges generalizing payload bytes with
  | nil =>
    obtain ⟨rfl, rfl⟩ := h
    rfl
  | cons range ranges ih =>
    cases bytes with
    | nil => exact h.elim
    | cons b bytes =>
      obtain ⟨inside, later⟩ := h
      simp [follow, inside, ih later]

theorem follow_of_follows_append {n payload : Nat} {ranges : List (Nat × Nat)}
    {some more : List UInt8} (h : Follows n payload ranges (some ++ more)) (missing : more ≠ []) :
    follow payload ranges some = .unfinished := by
  induction ranges generalizing payload some with
  | nil => simp_all [Follows]
  | cons range ranges ih =>
    cases some with
    | nil => rfl
    | cons b some =>
      obtain ⟨inside, later⟩ := h
      simp [follow, inside, ih later]

/-- The byte of a small number is that number. -/
private theorem toNat_byte {n : Nat} (h : n < 256) : (UInt8.ofNat n).toNat = n := by
  simp
  omega

private theorem lead_two {n : Nat} (low : 0x80 ≤ n) (high : n ≤ 0x7FF) :
    lead (n / 64 % 32 + 0xC0) = some (n / 64, [(0x80, 0xBF)]) := by
  have first : n / 64 % 32 = n / 64 := by omega
  rw [first, lead]
  split_ifs <;> first | omega | simp

/-- What may follow the first of three bytes. -/
private def tailsOfThree (n : Nat) : List (Nat × Nat) :=
  if n / 4096 = 0 then [(0xA0, 0xBF), (0x80, 0xBF)]
  else if n / 4096 = 13 then [(0x80, 0x9F), (0x80, 0xBF)]
  else [(0x80, 0xBF), (0x80, 0xBF)]

private theorem lead_three {n : Nat} (high : n ≤ 0xFFFF) :
    lead (n / 4096 % 16 + 0xE0) = some (n / 4096, tailsOfThree n) := by
  have first : n / 4096 % 16 = n / 4096 := by omega
  have bound : n / 4096 < 16 := by omega
  rw [first, lead, tailsOfThree]
  generalize n / 4096 = m at *
  split_ifs <;> first | omega | (simp; try omega)

/-- What may follow the first of four bytes. -/
private def tailsOfFour (n : Nat) : List (Nat × Nat) :=
  if n / 262144 = 0 then [(0x90, 0xBF), (0x80, 0xBF), (0x80, 0xBF)]
  else if n / 262144 = 4 then [(0x80, 0x8F), (0x80, 0xBF), (0x80, 0xBF)]
  else [(0x80, 0xBF), (0x80, 0xBF), (0x80, 0xBF)]

private theorem lead_four {n : Nat} (high : n < 0x110000) :
    lead (n / 262144 % 8 + 0xF0) = some (n / 262144, tailsOfFour n) := by
  have first : n / 262144 % 8 = n / 262144 := by omega
  have bound : n / 262144 < 5 := by omega
  rw [first, lead, tailsOfFour]
  generalize n / 262144 = m at *
  split_ifs <;> first | omega | (simp; try omega)

/-- The bytes of a character are one small byte, or a first byte with those that follow it. -/
theorem encodeChar_cases (c : Char) :
    (c.toNat < 0x80 ∧ String.utf8EncodeChar c = [.ofNat c.toNat]) ∨
      ∃ b bytes payload ranges, String.utf8EncodeChar c = b :: bytes ∧ 0x80 ≤ b.toNat ∧
        lead b.toNat = some (payload, ranges) ∧ Follows c.toNat payload ranges bytes := by
  have valid : c.toNat < 0xD800 ∨ 0xDFFF < c.toNat ∧ c.toNat < 0x110000 := c.valid
  have value : c.val.toNat = c.toNat := rfl
  generalize c.toNat = n at *
  unfold String.utf8EncodeChar
  simp only [value]
  split
  · exact .inl ⟨by omega, rfl⟩
  · right
    split
    · refine ⟨_, _, n / 64, [(0x80, 0xBF)], rfl, ?_, ?_, ?_⟩
      · rw [toNat_byte (by omega)]
        omega
      · rw [toNat_byte (by omega)]
        exact lead_two (by omega) (by omega)
      · simp [Follows]
        omega
    · split
      · refine ⟨_, _, n / 4096, tailsOfThree n, rfl, ?_, ?_, ?_⟩
        · rw [toNat_byte (by omega)]
          omega
        · rw [toNat_byte (by omega)]
          exact lead_three (by omega)
        · rw [tailsOfThree]
          split_ifs <;> simp [Follows] <;> omega
      · refine ⟨_, _, n / 262144, tailsOfFour n, rfl, ?_, ?_, ?_⟩
        · rw [toNat_byte (by omega)]
          omega
        · rw [toNat_byte (by omega)]
          exact lead_four (by omega)
        · rw [tailsOfFour]
          split_ifs <;> simp [Follows] <;> omega

/-- The bytes of a character, with any bytes after them, are read as the character. -/
theorem next_encodeChar {c : Char} {b : UInt8} {bytes : List UInt8}
    (h : String.utf8EncodeChar c = b :: bytes) (rest : List UInt8) :
    next b (bytes ++ rest) = .char c rest := by
  have read : Char.ofNat c.toNat = c := Char.ofNat_toNat c
  rcases encodeChar_cases c with ⟨small, single⟩ | ⟨b', bytes', payload, ranges, parts, large, hl, hf⟩
  · obtain ⟨rfl, rfl⟩ := List.cons.inj (h.symm.trans single)
    simp [next, toNat_byte (show c.toNat < 256 by omega), small, read]
  · obtain ⟨rfl, rfl⟩ := List.cons.inj (h.symm.trans parts)
    simp [next, Nat.not_lt.2 large, hl, follow_of_follows hf, read]

/-- The first bytes of a character whose other bytes are missing wait for these. -/
theorem next_of_missing {c : Char} {b : UInt8} {some more : List UInt8}
    (h : String.utf8EncodeChar c = b :: (some ++ more)) (missing : more ≠ []) :
    next b some = .unfinished := by
  rcases encodeChar_cases c with ⟨small, single⟩ | ⟨b', bytes', payload, ranges, parts, large, hl, hf⟩
  · have := (List.cons.inj (h.symm.trans single)).2
    simp_all
  · obtain ⟨rfl, rfl⟩ := List.cons.inj (h.symm.trans parts)
    simp [next, Nat.not_lt.2 large, hl, follow_of_follows_append hf missing]

-- ---------------------------------------------------------------------------
-- Whole texts
-- ---------------------------------------------------------------------------

theorem encode_append (s t : List Char) : encode (s ++ t) = encode s ++ encode t := by
  simp [encode]

theorem encode_cons (c : Char) (s : List Char) :
    encode (c :: s) = String.utf8EncodeChar c ++ encode s := by
  simp [encode]

theorem eq_nil_of_encode {s : List Char} (h : encode s = []) : s = [] := by
  cases s with
  | nil => rfl
  | cons c s =>
    rw [encode_cons, List.append_eq_nil_iff] at h
    exact absurd h.1 String.utf8EncodeChar_ne_nil

theorem readable_of_char {b : UInt8} {bytes rest : List UInt8} {c : Char}
    (h : next b bytes = .char c rest) :
    readable (b :: bytes) = (c :: (readable rest).1, (readable rest).2) := by
  rw [readable]
  split <;> simp_all

theorem readable_of_unfinished {b : UInt8} {bytes : List UInt8} (h : next b bytes = .unfinished) :
    readable (b :: bytes) = ([], .unfinished (b :: bytes)) := by
  rw [readable]
  split <;> simp_all

/-- How a first part of the bytes of a text is read: as complete characters, and perhaps as the
beginning of one more. -/
theorem readable_of_encode {t : List Char} {some more : List UInt8}
    (h : some ++ more = encode t) :
    ∃ u v w, t = u ++ v ∧ w ++ more = encode v ∧ (more = [] → v = []) ∧
      readable some = (u, if w = [] then .complete else .unfinished w) := by
  induction t generalizing some with
  | nil =>
    obtain ⟨rfl, rfl⟩ := List.append_eq_nil_iff.1 (h.trans rfl)
    exact ⟨[], [], [], rfl, rfl, fun _ => rfl, by simp [readable]⟩
  | cons c t ih =>
    have whole : ∀ later, later ++ more = encode t → some = String.utf8EncodeChar c ++ later →
        ∃ u v w, c :: t = u ++ v ∧ w ++ more = encode v ∧ (more = [] → v = []) ∧
          readable some = (u, if w = [] then .complete else .unfinished w) := by
      rintro later hl rfl
      obtain ⟨u, v, w, rfl, hw, done, hr⟩ := ih hl
      refine ⟨c :: u, v, w, rfl, hw, done, ?_⟩
      obtain ⟨b, bytes, parts⟩ := List.exists_cons_of_ne_nil (String.utf8EncodeChar_ne_nil (c := c))
      rw [parts, List.cons_append, readable_of_char (next_encodeChar parts later), hr]
    have split_h := h
    rw [encode_cons] at split_h
    rcases List.append_eq_append_iff.1 split_h with ⟨missing, bytes, rest⟩ | ⟨later, hs, rest⟩
    · by_cases complete : missing = []
      · subst complete
        exact whole [] (by simpa using rest) (by simpa using bytes.symm)
      · -- The first part ends before the character does.
        refine ⟨[], c :: t, some, rfl, h, fun hm => ?_, ?_⟩
        · simp_all
        · cases some with
          | nil => simp [readable]
          | cons b some =>
            rw [readable_of_unfinished (next_of_missing bytes complete)]
            simp
    · exact whole later rest.symm hs

end Retrace.Text.Utf8
