/-!
# UTF-8

Reading bytes as characters when the bytes may be wrong or may stop in the
middle of a character. `next` reads one item; `readable` reads as far as the
bytes are right, `decode?` accepts right bytes only, and `decodeLossy` puts
U+FFFD in the place of each longest sequence that starts no character.
-/

namespace Retrace.Text.Utf8

/-- What the start of a byte sequence holds. -/
inductive Item where
  /-- A character and the bytes after it. -/
  | char (c : Char) (rest : List UInt8)
  /-- Bytes that begin no character, and the bytes after them. -/
  | broken (rest : List UInt8)
  /-- The beginning of a character whose other bytes are missing. -/
  | unfinished

/-- The payload of a first byte above 0x7F, and the range of each byte that has to follow. -/
def lead (b : Nat) : Option (Nat × List (Nat × Nat)) :=
  let tail := (0x80, 0xBF)
  if b < 0xC2 then none
  else if b < 0xE0 then some (b - 0xC0, [tail])
  else if b = 0xE0 then some (0, [(0xA0, 0xBF), tail])
  else if b = 0xED then some (0xD, [(0x80, 0x9F), tail])
  else if b < 0xF0 then some (b - 0xE0, [tail, tail])
  else if b = 0xF0 then some (0, [(0x90, 0xBF), tail, tail])
  else if b < 0xF4 then some (b - 0xF0, [tail, tail, tail])
  else if b = 0xF4 then some (4, [(0x80, 0x8F), tail, tail])
  else none

/-- The bytes that follow a first byte, each in its range, add six bits each to the payload. -/
def follow (payload : Nat) : List (Nat × Nat) → List UInt8 → Item
  | [], rest => .char (Char.ofNat payload) rest
  | _ :: _, [] => .unfinished
  | (low, high) :: ranges, b :: rest =>
    if low ≤ b.toNat ∧ b.toNat ≤ high then
      follow (payload * 64 + (b.toNat - 0x80)) ranges rest
    else
      .broken (b :: rest)

/-- The item at the start of the bytes `b :: rest`. -/
def next (b : UInt8) (rest : List UInt8) : Item :=
  if b.toNat < 0x80 then .char (Char.ofNat b.toNat) rest
  else
    match lead b.toNat with
    | some (payload, ranges) => follow payload ranges rest
    | none => .broken rest

-- ---------------------------------------------------------------------------
-- What an item leaves
-- ---------------------------------------------------------------------------

/-- The bytes after an item. -/
def Item.rest : Item → List UInt8
  | .char _ rest => rest
  | .broken rest => rest
  | .unfinished => []

theorem follow_rest_length_le (payload : Nat) (ranges : List (Nat × Nat)) (bytes : List UInt8) :
    (follow payload ranges bytes).rest.length ≤ bytes.length := by
  induction ranges generalizing payload bytes with
  | nil => simp [follow, Item.rest]
  | cons range ranges ih =>
    cases bytes with
    | nil => simp [follow, Item.rest]
    | cons b rest =>
      simp only [follow]
      split
      · exact Nat.le_trans (ih _ _) (Nat.le_succ _)
      · exact Nat.le_refl _

theorem next_rest_length_le (b : UInt8) (bytes : List UInt8) :
    (next b bytes).rest.length ≤ bytes.length := by
  simp only [next]
  split
  · exact Nat.le_refl _
  · split
    · exact follow_rest_length_le _ _ _
    · exact Nat.le_refl _

-- ---------------------------------------------------------------------------
-- Reading
-- ---------------------------------------------------------------------------

/-- How the part of a byte sequence that can be read ends. -/
inductive Ending where
  /-- All bytes were read. -/
  | complete
  /-- The bytes that are left begin a character. -/
  | unfinished (tail : List UInt8)
  /-- The bytes that are left begin no character. -/
  | broken
  deriving DecidableEq, Repr

/-- The characters up to the first byte that is wrong or lacks its successors. -/
def readable : List UInt8 → List Char × Ending
  | [] => ([], .complete)
  | b :: bytes =>
    match h : next b bytes with
    | .char c rest =>
      have : rest.length < bytes.length + 1 := by
        have := next_rest_length_le b bytes
        rw [h] at this
        exact Nat.lt_succ_of_le this
      let (chars, ending) := readable rest
      (c :: chars, ending)
    | .broken _ => ([], .broken)
    | .unfinished => ([], .unfinished (b :: bytes))
  termination_by bytes => bytes.length

/-- The characters of bytes that are right from the first to the last. -/
def decode? (bytes : List UInt8) : Option (List Char) :=
  match readable bytes with
  | (chars, .complete) => some chars
  | _ => none

/-- The character that stands for bytes that cannot be read. -/
def replacement : Char := '\uFFFD'

/-- The characters of any bytes, one replacement for each longest wrong sequence. -/
def decodeLossy : List UInt8 → List Char
  | [] => []
  | b :: bytes =>
    match h : next b bytes with
    | .char c rest =>
      have : rest.length < bytes.length + 1 := by
        have := next_rest_length_le b bytes
        rw [h] at this
        exact Nat.lt_succ_of_le this
      c :: decodeLossy rest
    | .broken rest =>
      have : rest.length < bytes.length + 1 := by
        have := next_rest_length_le b bytes
        rw [h] at this
        exact Nat.lt_succ_of_le this
      replacement :: decodeLossy rest
    | .unfinished => [replacement]
  termination_by bytes => bytes.length

-- ---------------------------------------------------------------------------
-- Writing
-- ---------------------------------------------------------------------------

/-- The bytes of a text. -/
def encode (s : List Char) : List UInt8 :=
  s.flatMap String.utf8EncodeChar

/-- How many bytes a text takes. -/
def size : List Char → Nat
  | [] => 0
  | c :: rest => c.utf8Size + size rest

end Retrace.Text.Utf8
