import Retrace.Channel.Buffer
import Retrace.Proofs.Text.Decoding

/-!
# Bytes in chunks

The bytes of a channel arrive in chunks that may end within a character. As long
as nothing wrong arrives, the text that is pending is what is complete so far,
wherever the chunks end. A chunk with a wrong sequence also gives up the
beginning of a character at its end, so the text depends on where the chunks end
as soon as a longer character, or the beginning of one, is behind a wrong sequence.
-/

namespace Retrace.Buffer

open Text.Utf8

/-- Appends one chunk of bytes after the other. -/
def feedAll (b : Buffer) (chunks : List (List UInt8)) : Buffer :=
  chunks.foldl feedBytes b

variable {b : Buffer} {bytes rest : List UInt8} {chunks : List (List UInt8)}

@[simp]
theorem feedAll_nil : b.feedAll [] = b := rfl

@[simp]
theorem feedAll_cons (b : Buffer) (bytes : List UInt8) (chunks : List (List UInt8)) :
    b.feedAll (bytes :: chunks) = (b.feedBytes bytes).feedAll chunks := rfl

-- ---------------------------------------------------------------------------
-- One chunk
-- ---------------------------------------------------------------------------

/-- Without a wrong sequence the end is held back. -/
theorem feedBytes_of_right (right : afterBroken? (b.unfinished ++ bytes) = none) :
    b.feedBytes bytes = ⟨b.pending ++ (decodeSoFar (b.unfinished ++ bytes)).1,
      (decodeSoFar (b.unfinished ++ bytes)).2⟩ := by
  simp only [feedBytes, readable_eq right]
  by_cases held : (decodeSoFar (b.unfinished ++ bytes)).2 = [] <;> simp [held]

/-- With a wrong sequence nothing is held back. -/
theorem feedBytes_of_wrong (wrong : afterBroken? (b.unfinished ++ bytes) ≠ none) :
    b.feedBytes bytes = ⟨b.pending ++ decodeLossy (b.unfinished ++ bytes), []⟩ := by
  obtain ⟨rest, wrong⟩ := Option.ne_none_iff_exists'.1 wrong
  have ending := readable_of_wrong wrong
  generalize read : readable (b.unfinished ++ bytes) = r at ending
  obtain ⟨chars, ending⟩ := r
  subst ending
  simp [feedBytes, read]

theorem feedBytes_fresh_of_right (text : List Char) (right : afterBroken? bytes = none) :
    feedBytes ⟨text, []⟩ bytes = ⟨text ++ (decodeSoFar bytes).1, (decodeSoFar bytes).2⟩ :=
  feedBytes_of_right (b := ⟨text, []⟩) right

theorem feedBytes_fresh_of_wrong (text : List Char) (wrong : afterBroken? bytes ≠ none) :
    feedBytes ⟨text, []⟩ bytes = ⟨text ++ decodeLossy bytes, []⟩ :=
  feedBytes_of_wrong (b := ⟨text, []⟩) wrong

/-- What waits is the beginning of a character. -/
def Holds (b : Buffer) : Prop :=
  decodeSoFar b.unfinished = ([], b.unfinished)

theorem holds_feedBytes (b : Buffer) (bytes : List UInt8) : (b.feedBytes bytes).Holds := by
  by_cases right : afterBroken? (b.unfinished ++ bytes) = none
  · rw [feedBytes_of_right right]
    exact decodeSoFar_held _
  · rw [feedBytes_of_wrong right]
    exact decodeSoFar_nil

-- ---------------------------------------------------------------------------
-- Chunks without a wrong sequence
-- ---------------------------------------------------------------------------

/-- Without a wrong sequence chunks are read as the bytes that they are parts of. -/
theorem feedAll_of_right (holds : b.Holds)
    (right : afterBroken? (b.unfinished ++ chunks.flatten) = none) :
    b.feedAll chunks = ⟨b.pending ++ (decodeSoFar (b.unfinished ++ chunks.flatten)).1,
      (decodeSoFar (b.unfinished ++ chunks.flatten)).2⟩ := by
  induction chunks generalizing b with
  | nil =>
    have nothing_read : decodeSoFar b.unfinished = ([], b.unfinished) := holds
    simp [nothing_read]
  | cons bytes chunks ih =>
    rw [List.flatten_cons, ← List.append_assoc] at right ⊢
    have first := afterBroken?_of_append right
    have fed := feedBytes_of_right first
    have later := ih (holds_feedBytes b bytes) (by rwa [fed, ← afterBroken?_append first])
    rw [feedAll_cons, later, fed, decodeSoFar_append (b.unfinished ++ bytes)]
    simp

-- ---------------------------------------------------------------------------
-- Chunks of the bytes of a text
-- ---------------------------------------------------------------------------

/-- The bytes of a text are read as its complete characters, and the rest is held back, however
they are cut and however many of them have arrived. -/
theorem feedAll_of_encode {t : List Char} (h : chunks.flatten <+: encode t) :
    let b := feedAll {} chunks
    b.pending <+: t ∧
      (∀ s, s <+: t → (encode s <+: chunks.flatten ↔ s <+: b.pending)) ∧
      encode b.pending ++ b.unfinished = chunks.flatten ∧ b.unfinished.length ≤ 3 ∧
      (b.isEmpty = true ↔ chunks.flatten = []) ∧
      (replacement ∈ b.pending → replacement ∈ t) := by
  obtain ⟨more, h⟩ := h
  obtain ⟨u, v, rfl, later, read, right⟩ := decodeSoFar_of_encode h
  have fed : feedAll {} chunks =
      ⟨(decodeSoFar chunks.flatten).1, (decodeSoFar chunks.flatten).2⟩ := by
    simpa using feedAll_of_right (b := {}) decodeSoFar_nil right
  have parts :
      encode (decodeSoFar chunks.flatten).1 ++ (decodeSoFar chunks.flatten).2 = chunks.flatten := by
    rw [encode_append, ← later, ← List.append_assoc, List.append_left_inj] at h
    rw [read]
    exact h.symm
  have beginning : (decodeSoFar chunks.flatten).1 <+: u ++ v := read ▸ List.prefix_append ..
  simp only [fed]
  refine ⟨beginning, fun s hs => encode_prefix_iff beginning parts hs, parts, held_length_le _, ?_,
    fun h => beginning.subset h⟩
  simp only [isEmpty, Bool.and_eq_true, List.isEmpty_iff]
  constructor
  · rintro ⟨no_text, no_bytes⟩
    rw [no_text, no_bytes] at parts
    exact parts.symm
  · intro nothing
    simp [nothing]

/-- Three characters whose bytes arrive in five chunks, one of them empty, up to the last byte but
one. -/
theorem feedAll_of_encode_cut :
    [[0xC3], [0xA9, 0xE2, 0x82], [], [0xAC, 0xF0], [0x9F, 0x98]].flatten <+:
        encode "é€😀".toList ∧
      "é€".toList <+:
        (feedAll {} [[0xC3], [0xA9, 0xE2, 0x82], [], [0xAC, 0xF0], [0x9F, 0x98]]).pending ∧
      ¬ "é€😀".toList <+:
        (feedAll {} [[0xC3], [0xA9, 0xE2, 0x82], [], [0xAC, 0xF0], [0x9F, 0x98]]).pending := by
  have cut : [[0xC3], [0xA9, 0xE2, 0x82], [], [0xAC, 0xF0], [0x9F, 0x98]].flatten <+:
      encode "é€😀".toList := by decide +kernel
  obtain ⟨-, longest, -⟩ := feedAll_of_encode cut
  refine ⟨cut, (longest _ (by decide +kernel)).1 (by decide +kernel), fun whole => ?_⟩
  exact absurd ((longest _ (List.prefix_refl _)).2 whole) (by decide +kernel)

-- ---------------------------------------------------------------------------
-- Chunks with a wrong sequence
-- ---------------------------------------------------------------------------

/-- Where all bytes behind the first wrong sequence are items of their own, chunks are read as the
bytes that they are parts of. -/
theorem feedAll_of_bytewise (holds : b.Holds)
    (single : ∀ rest, afterBroken? (b.unfinished ++ chunks.flatten) = some rest → Bytewise rest) :
    (b.feedAll chunks).pending =
      b.pending ++ (decodeSoFar (b.unfinished ++ chunks.flatten)).1 := by
  induction chunks generalizing b with
  | nil =>
    have nothing_read : decodeSoFar b.unfinished = ([], b.unfinished) := holds
    simp [nothing_read]
  | cons bytes chunks ih =>
    rw [List.flatten_cons, ← List.append_assoc] at single ⊢
    rw [feedAll_cons]
    cases first : afterBroken? (b.unfinished ++ bytes) with
    | none =>
      have fed := feedBytes_of_right first
      rw [ih (holds_feedBytes b bytes) (by rwa [fed, ← afterBroken?_append first]), fed,
        decodeSoFar_append (b.unfinished ++ bytes)]
      simp
    | some rest =>
      have fed := feedBytes_of_wrong (by simp [first] : afterBroken? (b.unfinished ++ bytes) ≠ none)
      obtain ⟨later, read⟩ := decodeLossy_append_of_wrong first
        (single _ (afterBroken?_append_of_wrong first chunks.flatten))
      rw [ih (holds_feedBytes b bytes) (by rw [fed]; exact fun _ => bytewise_after later), fed,
        read]
      simp

/-- Where only the last byte shows that a sequence is wrong, the chunk of this byte is read with all
that waits, and nothing comes after it. -/
theorem feedAll_of_late {early : List UInt8} {last : UInt8} (holds : b.Holds)
    (whole : b.unfinished ++ chunks.flatten = early ++ [last])
    (right : afterBroken? early = none) (wrong : afterBroken? (early ++ [last]) ≠ none) :
    (b.feedAll chunks).pending = b.pending ++ decodeLossy (early ++ [last]) := by
  induction chunks generalizing b early with
  | nil =>
    rw [← whole, List.flatten_nil, List.append_nil] at wrong
    exact absurd (afterBroken?_of_nothing (congrArg Prod.fst holds)) wrong
  | cons bytes chunks ih =>
    rw [List.flatten_cons, ← List.append_assoc] at whole
    rw [feedAll_cons]
    have later_holds := holds_feedBytes b bytes
    rcases List.eq_nil_or_concat' chunks.flatten with done | ⟨middle, last', rest⟩
    · -- The last byte has arrived with this chunk.
      rw [done, List.append_nil] at whole
      have fed := feedBytes_of_wrong (whole ▸ wrong)
      have same := feedAll_of_right later_holds
        (show afterBroken? (_ ++ chunks.flatten) = none by simp [fed, done])
      rw [same, fed, ← whole]
      simp [done]
    · rw [rest, ← List.append_assoc] at whole
      obtain ⟨rfl, same⟩ := List.append_inj' whole rfl
      obtain rfl : last' = last := by simpa using same
      have first := afterBroken?_of_append right
      have fed := feedBytes_of_right first
      rw [afterBroken?_append first] at right
      rw [List.append_assoc, afterBroken?_append first, ← List.append_assoc] at wrong
      rw [ih later_holds (by rw [fed, rest, List.append_assoc]) right wrong, fed,
        List.append_assoc (b.unfinished ++ bytes), decodeLossy_append (b.unfinished ++ bytes)]
      simp

-- ---------------------------------------------------------------------------
-- Where the chunks end
-- ---------------------------------------------------------------------------

/-- The text that is pending after all bytes is the same for all ways to cut them into chunks. -/
def CutFree (bytes : List UInt8) : Prop :=
  ∀ chunks others : List (List UInt8), chunks.flatten = bytes → others.flatten = bytes →
    (feedAll {} chunks).pending = (feedAll {} others).pending

/-- Where a cut does not matter, an item that begins behind a wrong sequence is one byte long. -/
theorem CutFree.alone {before after : List UInt8} {first : UInt8} {chars : List Char}
    (free : CutFree (before ++ first :: after)) (boundary : Boundary before (first :: after) chars)
    (early : after = [] → afterBroken? before ≠ none) : Alone first after := by
  by_contra longer
  have wrong : afterBroken? (before ++ [first]) ≠ none := boundary.wrong _ (by simp)
  have given_up := boundary.lossy (y := [first]) (by simp)
  by_cases more : after = []
  · -- The last byte only begins a character, and waits if its chunk has nothing else.
    subst more
    have begins := (alone_or_begins first).resolve_left longer
    have held := boundary.reads [first] (by simp)
    rw [decodeSoFar_of_unfinished begins] at held
    have fewer : (decodeLossy before).length ≤ chars.length := by
      simpa [held] using decodeLossy_length_le
        (show (decodeSoFar (before ++ [first])).2.length ≤ [first].length by simp [held])
    have same := congrArg List.length
      (free [before, [first]] [before ++ [first]] (by simp) (by simp))
    rw [feedAll_cons, feedBytes_fresh_of_wrong _ (early rfl), feedAll_cons,
      feedBytes_fresh_of_right _ (afterBroken?_of_unfinished begins), feedAll_cons,
      feedBytes_fresh_of_wrong _ wrong, given_up, decodeSoFar_of_unfinished begins,
      decodeLossy_of_unfinished begins] at same
    simp at same
    omega
  · -- A character is cut after its first byte, and both parts are given up.
    have ⟨stray, cost⟩ := cost_of_cut longer more
    have same := congrArg List.length
      (free [before ++ [first], after] [before ++ first :: after] (by simp) (by simp))
    have whole := boundary.lossy (y := first :: after) (by simp)
    have known := boundary.wrong (first :: after) (by simp)
    rw [feedAll_cons, feedBytes_fresh_of_wrong _ wrong, feedAll_cons,
      feedBytes_fresh_of_wrong _ stray, feedAll_cons, feedBytes_fresh_of_wrong _ known, given_up,
      whole] at same
    have one := decodeLossy_length first []
    simp at same
    omega

/-- Where a cut does not matter, all items behind a wrong sequence are one byte long. -/
theorem CutFree.bytewise {before after : List UInt8} {chars : List Char}
    (free : CutFree (before ++ after)) (boundary : Boundary before after chars)
    (known : ∀ early last, before ++ after = early ++ [last] → afterBroken? early ≠ none) :
    Bytewise after := by
  induction after generalizing before chars with
  | nil => trivial
  | cons first after ih =>
    have alone := free.alone boundary fun done => known before first (by rw [done])
    obtain ⟨chars, later⟩ := boundary.next alone
    refine ⟨alone, ih ?_ later ?_⟩
    · simpa using free
    · simpa using known

/-- Where all items behind a wrong sequence that shows early are one byte long, a cut does not
matter. -/
theorem cutFree_of_bytewise
    (single : ∀ early last rest, bytes = early ++ [last] → afterBroken? early = some rest →
      Bytewise (rest ++ [last])) : CutFree bytes := by
  suffices ∃ text, ∀ chunks : List (List UInt8), chunks.flatten = bytes →
      (feedAll {} chunks).pending = text by
    obtain ⟨text, read⟩ := this
    intro chunks others h h'
    rw [read chunks h, read others h']
  have of_bytewise : (∀ rest, afterBroken? bytes = some rest → Bytewise rest) →
      ∃ text, ∀ chunks : List (List UInt8), chunks.flatten = bytes →
        (feedAll {} chunks).pending = text := by
    refine fun single => ⟨(decodeSoFar bytes).1, ?_⟩
    rintro chunks rfl
    exact feedAll_of_bytewise (b := {}) decodeSoFar_nil single
  rcases List.eq_nil_or_concat' bytes with rfl | ⟨early, last, rfl⟩
  · exact of_bytewise (by simp)
  · cases shown : afterBroken? early with
    | some rest =>
      refine of_bytewise fun rest' h => ?_
      rw [afterBroken?_append_of_wrong shown] at h
      cases h
      exact single early last rest rfl shown
    | none =>
      by_cases wrong : afterBroken? (early ++ [last]) = none
      · exact of_bytewise (by simp [wrong])
      · exact ⟨decodeLossy (early ++ [last]), fun chunks h =>
          feedAll_of_late (b := {}) decodeSoFar_nil h shown wrong⟩

/-- The text that is pending after all bytes does not depend on how these are cut into chunks
exactly if, wherever a wrong sequence shows before the last byte, each byte behind it is an item of
its own: no longer character, and no beginning of one, comes after a wrong sequence. -/
theorem pending_eq_iff_bytewise (bytes : List UInt8) :
    (∀ chunks others : List (List UInt8), chunks.flatten = bytes → others.flatten = bytes →
      (feedAll {} chunks).pending = (feedAll {} others).pending) ↔
    ∀ early last rest, bytes = early ++ [last] → afterBroken? early = some rest →
      Bytewise (rest ++ [last]) := by
  constructor
  · rintro free early last rest rfl shown
    obtain ⟨before, chars, parts, boundary⟩ :=
      exists_boundary (afterBroken?_append_of_wrong shown [last])
    rw [parts] at free
    refine CutFree.bytewise free boundary fun early' last' same => ?_
    obtain ⟨rfl, -⟩ := List.append_inj' (parts.trans same) rfl
    simp [shown]
  · exact cutFree_of_bytewise

example : (feedAll {} [[0xFF], [0xC3, 0xA9]]).pending = ['\uFFFD', 'é'] ∧
    (feedAll {} [[0xFF, 0xC3], [0xA9]]).pending = ['\uFFFD', '\uFFFD', '\uFFFD'] := by
  decide +kernel

end Retrace.Buffer
