import Retrace.Proofs.Text.Utf8

/-!
# Decoding what is complete so far

Bytes that arrive one after the other are read item by item, and the beginning
of a character is held back until it can be read: then the places where the bytes
were cut do not show. Without right bytes after it, a beginning that is given up
becomes a replacement, and what belonged to it is read by itself.
-/

namespace Retrace.Text.Utf8

-- ---------------------------------------------------------------------------
-- One item, and what it depends on
-- ---------------------------------------------------------------------------

/-- A byte that only continues a character. -/
def Continues (b : UInt8) : Prop :=
  0x80 ≤ b.toNat ∧ b.toNat ≤ 0xBF

/-- The same item with other bytes after it. -/
def Item.withRest : Item → List UInt8 → Item
  | .char c _, rest => .char c rest
  | .broken _, rest => .broken rest
  | .unfinished, _ => .unfinished

theorem next_of_continues {b : UInt8} (h : Continues b) (bytes : List UInt8) :
    next b bytes = .broken bytes := by
  have first : lead b.toNat = none := by
    rw [lead, if_pos (by have := h.2; omega)]
  simp [next, first, h.1]

/-- What follows a first byte are at most three bytes that continue a character. -/
theorem lead_ranges {n payload : Nat} {ranges : List (Nat × Nat)}
    (h : lead n = some (payload, ranges)) :
    ranges ≠ [] ∧ ranges.length ≤ 3 ∧ ∀ r ∈ ranges, 0x80 ≤ r.1 ∧ r.2 ≤ 0xBF := by
  unfold lead at h
  split_ifs at h <;> (obtain ⟨-, rfl⟩ := Prod.mk.inj (Option.some.inj h); simp)

/-- After its first byte an item is made of bytes that continue a character, and if it is whole, it
depends on no more than the first of the bytes after it. -/
theorem exists_eaten_of_follow {payload : Nat} {ranges : List (Nat × Nat)} {bytes : List UInt8}
    {item : Item} (within : ∀ r ∈ ranges, 0x80 ≤ r.1 ∧ r.2 ≤ 0xBF)
    (h : follow payload ranges bytes = item) :
    ∃ eaten, bytes = eaten ++ item.rest ∧ (∀ k ∈ eaten, Continues k) ∧
      (item ≠ .unfinished →
        ∀ y, item.rest.take 1 <+: y → follow payload ranges (eaten ++ y) = item.withRest y) := by
  induction ranges generalizing payload bytes with
  | nil =>
    subst h
    exact ⟨[], rfl, by simp, fun _ _ _ => rfl⟩
  | cons range ranges ih =>
    cases bytes with
    | nil =>
      subst h
      exact ⟨[], rfl, by simp, fun whole => absurd rfl whole⟩
    | cons b bytes =>
      by_cases inside : range.1 ≤ b.toNat ∧ b.toNat ≤ range.2
      · rw [follow, if_pos inside] at h
        obtain ⟨eaten, rfl, continues, later⟩ := ih (fun r hr => within r (.tail _ hr)) h
        refine ⟨b :: eaten, rfl, ?_, fun whole y hy => ?_⟩
        · have bounds := within range (.head _)
          rintro k (_ | ⟨_, hk⟩)
          · exact ⟨Nat.le_trans bounds.1 inside.1, Nat.le_trans inside.2 bounds.2⟩
          · exact continues k hk
        · rw [List.cons_append, follow, if_pos inside, later whole y hy]
      · rw [follow, if_neg inside] at h
        subst h
        refine ⟨[], rfl, by simp, fun _ y hy => ?_⟩
        obtain ⟨y, rfl⟩ := hy
        simp [Item.rest, Item.withRest, follow, inside]

theorem exists_eaten {b : UInt8} {bytes : List UInt8} {item : Item} (h : next b bytes = item) :
    ∃ eaten, bytes = eaten ++ item.rest ∧ (∀ k ∈ eaten, Continues k) ∧
      (item ≠ .unfinished →
        ∀ y, item.rest.take 1 <+: y → next b (eaten ++ y) = item.withRest y) := by
  by_cases small : b.toNat < 0x80
  · simp only [next, if_pos small] at h ⊢
    subst h
    exact ⟨[], rfl, by simp, fun _ _ _ => rfl⟩
  · cases first : lead b.toNat with
    | none =>
      simp only [next, if_neg small, first] at h ⊢
      subst h
      exact ⟨[], rfl, by simp, fun _ _ _ => rfl⟩
    | some read =>
      simp only [next, if_neg small, first] at h ⊢
      exact exists_eaten_of_follow (lead_ranges first).2.2 h

/-- Later bytes do not change an item that is whole. -/
theorem next_append {b : UInt8} {bytes : List UInt8} {item : Item} (h : next b bytes = item)
    (whole : item ≠ .unfinished) (more : List UInt8) :
    next b (bytes ++ more) = item.withRest (item.rest ++ more) := by
  obtain ⟨eaten, rfl, -, later⟩ := exists_eaten h
  rw [List.append_assoc]
  exact later whole _ ((List.take_prefix ..).trans (List.prefix_append ..))

/-- The beginning of a character is less than four bytes long. -/
theorem length_of_unfinished {b : UInt8} {bytes : List UInt8} (h : next b bytes = .unfinished) :
    (b :: bytes).length ≤ 3 := by
  have short : ∀ {payload ranges} {bytes : List UInt8},
      follow payload ranges bytes = .unfinished → bytes.length < ranges.length := by
    intro payload ranges
    induction ranges generalizing payload with
    | nil => simp [follow]
    | cons range ranges ih =>
      rintro (_ | ⟨b, bytes⟩) h
      · simp
      · simp only [follow] at h
        split at h
        · exact Nat.succ_lt_succ (ih h)
        · cases h
  simp only [next] at h
  split at h
  · cases h
  · split at h
    · rename_i first
      exact Nat.le_trans (short h) (lead_ranges first).2.1
    · cases h

-- ---------------------------------------------------------------------------
-- Reading with the end held back
-- ---------------------------------------------------------------------------

/-- The items of any bytes, one replacement for each longest wrong sequence, and the beginning of
a character that is held back at the end. -/
def decodeSoFar : List UInt8 → List Char × List UInt8
  | [] => ([], [])
  | b :: bytes =>
    match h : next b bytes with
    | .char c rest =>
      have : rest.length < bytes.length + 1 := by
        have := next_rest_length_le b bytes
        rw [h] at this
        exact Nat.lt_succ_of_le this
      (decodeSoFar rest).map (c :: ·) id
    | .broken rest =>
      have : rest.length < bytes.length + 1 := by
        have := next_rest_length_le b bytes
        rw [h] at this
        exact Nat.lt_succ_of_le this
      (decodeSoFar rest).map (replacement :: ·) id
    | .unfinished => ([], b :: bytes)
  termination_by bytes => bytes.length

/-- The bytes after the first wrong sequence, if there is one. -/
def afterBroken? : List UInt8 → Option (List UInt8)
  | [] => none
  | b :: bytes =>
    match h : next b bytes with
    | .char _ rest =>
      have : rest.length < bytes.length + 1 := by
        have := next_rest_length_le b bytes
        rw [h] at this
        exact Nat.lt_succ_of_le this
      afterBroken? rest
    | .broken rest => some rest
    | .unfinished => none
  termination_by bytes => bytes.length

variable {b : UInt8} {bytes rest : List UInt8} {c : Char}

@[simp]
theorem decodeSoFar_nil : decodeSoFar [] = ([], []) := by
  rw [decodeSoFar]

theorem decodeSoFar_of_char (h : next b bytes = .char c rest) :
    decodeSoFar (b :: bytes) = (c :: (decodeSoFar rest).1, (decodeSoFar rest).2) := by
  rw [decodeSoFar]
  split <;> simp_all [Prod.map]

theorem decodeSoFar_of_broken (h : next b bytes = .broken rest) :
    decodeSoFar (b :: bytes) = (replacement :: (decodeSoFar rest).1, (decodeSoFar rest).2) := by
  rw [decodeSoFar]
  split <;> simp_all [Prod.map]

theorem decodeSoFar_of_unfinished (h : next b bytes = .unfinished) :
    decodeSoFar (b :: bytes) = ([], b :: bytes) := by
  rw [decodeSoFar]
  split <;> simp_all

@[simp]
theorem afterBroken?_nil : afterBroken? [] = none := by
  rw [afterBroken?]

theorem afterBroken?_of_char (h : next b bytes = .char c rest) :
    afterBroken? (b :: bytes) = afterBroken? rest := by
  rw [afterBroken?]
  split <;> simp_all

theorem afterBroken?_of_broken (h : next b bytes = .broken rest) :
    afterBroken? (b :: bytes) = some rest := by
  rw [afterBroken?]
  split <;> simp_all

theorem afterBroken?_of_unfinished (h : next b bytes = .unfinished) :
    afterBroken? (b :: bytes) = none := by
  rw [afterBroken?]
  split <;> simp_all

@[simp]
theorem decodeLossy_nil : decodeLossy [] = [] := by
  rw [decodeLossy]

theorem decodeLossy_of_char (h : next b bytes = .char c rest) :
    decodeLossy (b :: bytes) = c :: decodeLossy rest := by
  rw [decodeLossy]
  split <;> simp_all

theorem decodeLossy_of_broken (h : next b bytes = .broken rest) :
    decodeLossy (b :: bytes) = replacement :: decodeLossy rest := by
  rw [decodeLossy]
  split <;> simp_all

theorem decodeLossy_of_unfinished (h : next b bytes = .unfinished) :
    decodeLossy (b :: bytes) = [replacement] := by
  rw [decodeLossy]
  split <;> simp_all

/-- What is held back is nothing or the beginning of a character. -/
theorem held_cases (bytes : List UInt8) :
    (decodeSoFar bytes).2 = [] ∨
      ∃ b rest, (decodeSoFar bytes).2 = b :: rest ∧ next b rest = .unfinished := by
  induction bytes using decodeSoFar.induct with
  | case1 => simp
  | case2 b bytes c rest h _ ih => rwa [decodeSoFar_of_char h]
  | case3 b bytes rest h _ ih => rwa [decodeSoFar_of_broken h]
  | case4 b bytes h => exact .inr ⟨b, bytes, by rw [decodeSoFar_of_unfinished h], h⟩

theorem held_length_le (bytes : List UInt8) : (decodeSoFar bytes).2.length ≤ 3 := by
  rcases held_cases bytes with none | ⟨b, rest, held, h⟩
  · simp [none]
  · rw [held]
    exact length_of_unfinished h

/-- What is held back is held back again. -/
theorem decodeSoFar_held (bytes : List UInt8) :
    decodeSoFar (decodeSoFar bytes).2 = ([], (decodeSoFar bytes).2) := by
  rcases held_cases bytes with none | ⟨b, rest, held, h⟩
  · simp [none]
  · rw [held, decodeSoFar_of_unfinished h]

/-- Where nothing is read, all bytes are held back. -/
theorem held_of_nothing (h : (decodeSoFar bytes).1 = []) : (decodeSoFar bytes).2 = bytes := by
  rcases bytes with _ | ⟨b, bytes⟩
  · simp
  · cases item : next b bytes with
    | char c rest => simp [decodeSoFar_of_char item] at h
    | broken rest => simp [decodeSoFar_of_broken item] at h
    | unfinished => simp [decodeSoFar_of_unfinished item]

/-- Reading goes on where it stopped, from what was held back. -/
theorem decodeSoFar_append (bytes more : List UInt8) :
    decodeSoFar (bytes ++ more) =
      ((decodeSoFar bytes).1 ++ (decodeSoFar ((decodeSoFar bytes).2 ++ more)).1,
        (decodeSoFar ((decodeSoFar bytes).2 ++ more)).2) := by
  induction bytes using decodeSoFar.induct with
  | case1 => simp
  | case2 b bytes c rest h _ ih =>
    have longer := next_append h (by simp) more
    rw [List.cons_append, decodeSoFar_of_char longer, decodeSoFar_of_char h, Item.rest, ih]
    rfl
  | case3 b bytes rest h _ ih =>
    have longer := next_append h (by simp) more
    rw [List.cons_append, decodeSoFar_of_broken longer, decodeSoFar_of_broken h, Item.rest, ih]
    rfl
  | case4 b bytes h => simp [decodeSoFar_of_unfinished h]

/-- Before a wrong sequence has been seen, one is found from what was held back. -/
theorem afterBroken?_append (right : afterBroken? bytes = none) (more : List UInt8) :
    afterBroken? (bytes ++ more) = afterBroken? ((decodeSoFar bytes).2 ++ more) := by
  induction bytes using decodeSoFar.induct with
  | case1 => simp
  | case2 b bytes c rest h _ ih =>
    rw [afterBroken?_of_char h] at right
    rw [List.cons_append, afterBroken?_of_char (next_append h (by simp) more),
      decodeSoFar_of_char h, Item.rest, ih right]
  | case3 b bytes rest h => simp [afterBroken?_of_broken h] at right
  | case4 b bytes h => simp [decodeSoFar_of_unfinished h]

/-- Later bytes do not change which sequence is the first wrong one. -/
theorem afterBroken?_append_of_wrong (wrong : afterBroken? bytes = some rest) (more : List UInt8) :
    afterBroken? (bytes ++ more) = some (rest ++ more) := by
  induction bytes using decodeSoFar.induct with
  | case1 => simp at wrong
  | case2 b bytes c later h _ ih =>
    rw [afterBroken?_of_char h] at wrong
    rw [List.cons_append, afterBroken?_of_char (next_append h (by simp) more)]
    exact ih wrong
  | case3 b bytes later h =>
    rw [afterBroken?_of_broken h] at wrong
    cases wrong
    rw [List.cons_append, afterBroken?_of_broken (next_append h (by simp) more)]
    rfl
  | case4 b bytes h => simp [afterBroken?_of_unfinished h] at wrong

theorem afterBroken?_of_append {more : List UInt8} (right : afterBroken? (bytes ++ more) = none) :
    afterBroken? bytes = none := by
  cases wrong : afterBroken? bytes with
  | none => rfl
  | some rest => simp [afterBroken?_append_of_wrong wrong] at right

/-- Bytes without a wrong sequence are read up to what is held back. -/
theorem readable_eq (right : afterBroken? bytes = none) :
    readable bytes = ((decodeSoFar bytes).1,
      if (decodeSoFar bytes).2 = [] then .complete else .unfinished (decodeSoFar bytes).2) := by
  induction bytes using decodeSoFar.induct with
  | case1 => simp [readable]
  | case2 b bytes c rest h _ ih =>
    rw [afterBroken?_of_char h] at right
    rw [readable_of_char h, decodeSoFar_of_char h, ih right]
  | case3 b bytes rest h => simp [afterBroken?_of_broken h] at right
  | case4 b bytes h => simp [readable_of_unfinished h, decodeSoFar_of_unfinished h]

theorem readable_of_wrong (wrong : afterBroken? bytes = some rest) :
    (readable bytes).2 = .broken := by
  induction bytes using decodeSoFar.induct with
  | case1 => simp at wrong
  | case2 b bytes c later h _ ih =>
    rw [afterBroken?_of_char h] at wrong
    rw [readable_of_char h, ih wrong]
  | case3 b bytes later h =>
    rw [readable]
    split <;> simp_all
  | case4 b bytes h => simp [afterBroken?_of_unfinished h] at wrong

/-- What is held back counts as one wrong sequence where nothing is held back. -/
theorem decodeLossy_eq (bytes : List UInt8) :
    decodeLossy bytes =
      (decodeSoFar bytes).1 ++ if (decodeSoFar bytes).2 = [] then [] else [replacement] := by
  induction bytes using decodeSoFar.induct with
  | case1 => simp
  | case2 b bytes c rest h _ ih => rw [decodeLossy_of_char h, decodeSoFar_of_char h, ih]; rfl
  | case3 b bytes rest h _ ih => rw [decodeLossy_of_broken h, decodeSoFar_of_broken h, ih]; rfl
  | case4 b bytes h => simp [decodeLossy_of_unfinished h, decodeSoFar_of_unfinished h]

theorem decodeLossy_append (bytes more : List UInt8) :
    decodeLossy (bytes ++ more) =
      (decodeSoFar bytes).1 ++ decodeLossy ((decodeSoFar bytes).2 ++ more) := by
  rw [decodeLossy_eq, decodeSoFar_append, decodeLossy_eq, List.append_assoc]

/-- Where nothing was read, nothing is wrong. -/
theorem afterBroken?_of_nothing (h : (decodeSoFar bytes).1 = []) : afterBroken? bytes = none := by
  rcases held_cases bytes with none | ⟨b, rest, held, item⟩
  · rw [← held_of_nothing h, none, afterBroken?_nil]
  · rw [← held_of_nothing h, held, afterBroken?_of_unfinished item]

-- ---------------------------------------------------------------------------
-- The bytes of a text
-- ---------------------------------------------------------------------------

/-- The first bytes of a text are read as its complete characters. -/
theorem decodeSoFar_of_encode {t : List Char} {more : List UInt8} (h : bytes ++ more = encode t) :
    ∃ u v, t = u ++ v ∧ (decodeSoFar bytes).2 ++ more = encode v ∧ (decodeSoFar bytes).1 = u ∧
      afterBroken? bytes = none := by
  obtain ⟨u, v, w, rfl, hw, -, read⟩ := readable_of_encode h
  have right : afterBroken? bytes = none := by
    cases wrong : afterBroken? bytes with
    | none => rfl
    | some rest =>
      have ending := readable_of_wrong wrong
      rw [read] at ending
      by_cases complete : w = [] <;> simp [complete] at ending
  rw [readable_eq right, Prod.mk.injEq] at read
  obtain ⟨chars, ending⟩ := read
  have held : (decodeSoFar bytes).2 = w := by
    by_cases none : (decodeSoFar bytes).2 = [] <;> by_cases complete : w = [] <;>
      simp_all
  exact ⟨u, v, rfl, by rw [held, hw], chars, right⟩

/-- What is held back is less than a character. -/
theorem not_encode_prefix_held {c : Char} {s : List Char} :
    ¬ encode (c :: s) <+: (decodeSoFar bytes).2 := by
  rintro ⟨later, h⟩
  obtain ⟨b, rest, parts⟩ := List.exists_cons_of_ne_nil (String.utf8EncodeChar_ne_nil (c := c))
  rw [encode_cons, parts, List.append_assoc, List.cons_append] at h
  rcases held_cases bytes with none | ⟨b', rest', held, waits⟩
  · simp [none] at h
  · rw [held] at h
    obtain ⟨rfl, rfl⟩ := List.cons.inj h
    rw [next_encodeChar parts] at waits
    cases waits

/-- The complete characters are the longest beginning of a text whose bytes are there. -/
theorem encode_prefix_iff {t s : List Char} (beginning : (decodeSoFar bytes).1 <+: t)
    (parts : encode (decodeSoFar bytes).1 ++ (decodeSoFar bytes).2 = bytes) (hs : s <+: t) :
    encode s <+: bytes ↔ s <+: (decodeSoFar bytes).1 := by
  constructor
  · intro h
    rcases List.prefix_or_prefix_of_prefix hs beginning with shorter | ⟨longer, rfl⟩
    · exact shorter
    · cases longer with
      | nil => simp
      | cons c longer =>
        have h : encode (decodeSoFar bytes).1 ++ encode (c :: longer) <+:
            encode (decodeSoFar bytes).1 ++ (decodeSoFar bytes).2 := by
          rwa [parts, ← encode_append]
        exact absurd ((List.prefix_append_right_inj _).1 h) not_encode_prefix_held
  · rintro ⟨longer, h⟩
    rw [← parts, ← h, encode_append, List.append_assoc]
    exact List.prefix_append ..

-- ---------------------------------------------------------------------------
-- Bytes that are read one by one
-- ---------------------------------------------------------------------------

/-- The first byte is an item of its own: a small character, or a byte that is wrong where it
stands. -/
def Alone (b : UInt8) (bytes : List UInt8) : Prop :=
  next b bytes = .broken bytes ∨ ∃ c, next b bytes = .char c bytes

/-- The last byte is an item of its own or begins a character. -/
theorem alone_or_begins (b : UInt8) : Alone b [] ∨ next b [] = .unfinished := by
  have nothing := next_rest_length_le b []
  have none_left : ∀ rest : List UInt8, rest.length ≤ 0 → rest = [] := fun rest h =>
    List.eq_nil_of_length_eq_zero (Nat.le_zero.1 h)
  cases item : next b [] with
  | unfinished => exact .inr rfl
  | char c rest =>
    rw [item] at nothing
    exact .inl (.inr ⟨c, none_left rest nothing ▸ item⟩)
  | broken rest =>
    rw [item] at nothing
    exact .inl (.inl (none_left rest nothing ▸ item))

/-- Each byte is an item of its own. -/
def Bytewise : List UInt8 → Prop
  | [] => True
  | b :: bytes => Alone b bytes ∧ Bytewise bytes

/-- A character of one byte is read before any bytes. -/
theorem next_of_small (h : next b bytes = .char c bytes) (other : List UInt8) :
    next b other = .char c other := by
  by_cases small : b.toNat < 0x80
  · simp_all [next]
  · simp only [next, if_neg small] at h
    split at h
    · rename_i payload ranges first
      obtain ⟨range, ranges, rfl⟩ := List.exists_cons_of_ne_nil (lead_ranges first).1
      rcases bytes with _ | ⟨d, bytes⟩
      · cases h
      · rw [follow] at h
        split at h
        · -- A longer character leaves less than all bytes.
          have fewer := follow_rest_length_le (payload * 64 + (d.toNat - 0x80)) ranges bytes
          rw [h] at fewer
          exact absurd fewer (by simp [Item.rest])
        · cases h
    · cases h

/-- A byte that is wrong by itself is so before the first of the bytes after it, and without these
wrong or the beginning of a character. -/
theorem next_of_stray {more : List UInt8} (h : next b (bytes ++ more) = .broken (bytes ++ more)) :
    next b bytes = .broken bytes ∨ bytes = [] ∧ next b bytes = .unfinished := by
  rcases bytes with _ | ⟨d, bytes⟩
  · rcases alone_or_begins b with (stray | ⟨c, small⟩) | begins
    · exact .inl stray
    · cases h.symm.trans (next_of_small small more)
    · exact .inr ⟨rfl, begins⟩
  · obtain ⟨eaten, parts, -, later⟩ := exists_eaten h
    obtain rfl : eaten = [] := by simpa [Item.rest] using parts
    exact .inl (later (by simp) _ (by simp [Item.rest]))

/-- Where all bytes are items of their own, giving up what is held back changes nothing. -/
theorem decodeLossy_append_of_bytewise {more : List UInt8} (single : Bytewise (bytes ++ more)) :
    Bytewise more ∧
      (decodeSoFar (bytes ++ more)).1 = decodeLossy bytes ++ (decodeSoFar more).1 := by
  induction bytes with
  | nil => simpa using single
  | cons b bytes ih =>
    rw [List.cons_append] at single ⊢
    obtain ⟨item, single⟩ := single
    obtain ⟨later, ih⟩ := ih single
    refine ⟨later, ?_⟩
    rcases item with stray | ⟨c, small⟩
    · rw [decodeSoFar_of_broken stray, ih]
      rcases next_of_stray stray with alone | ⟨rfl, alone⟩
      · rw [decodeLossy_of_broken alone]
        rfl
      · simp [decodeLossy_of_unfinished alone]
    · rw [decodeSoFar_of_char small, ih, decodeLossy_of_char (next_of_small small bytes)]
      rfl

/-- Where all bytes behind the first wrong sequence are items of their own, giving up what is held
back changes nothing. -/
theorem decodeLossy_append_of_wrong {more : List UInt8} (wrong : afterBroken? bytes = some rest)
    (single : Bytewise (rest ++ more)) :
    Bytewise more ∧
      (decodeSoFar (bytes ++ more)).1 = decodeLossy bytes ++ (decodeSoFar more).1 := by
  induction bytes using decodeSoFar.induct with
  | case1 => simp at wrong
  | case2 b bytes c later h _ ih =>
    rw [afterBroken?_of_char h] at wrong
    obtain ⟨later_single, ih⟩ := ih wrong
    refine ⟨later_single, ?_⟩
    rw [List.cons_append, decodeSoFar_of_char (next_append h (by simp) more), decodeLossy_of_char h]
    simp [Item.rest, ih]
  | case3 b bytes later h =>
    rw [afterBroken?_of_broken h] at wrong
    cases wrong
    obtain ⟨later_single, ih⟩ := decodeLossy_append_of_bytewise single
    refine ⟨later_single, ?_⟩
    rw [List.cons_append, decodeSoFar_of_broken (next_append h (by simp) more),
      decodeLossy_of_broken h]
    simp [Item.rest, ih]
  | case4 b bytes h => simp [afterBroken?_of_unfinished h] at wrong

/-- Where all bytes are items of their own, this holds after each wrong one. -/
theorem bytewise_after (single : Bytewise bytes) (wrong : afterBroken? bytes = some rest) :
    Bytewise rest := by
  induction bytes with
  | nil => simp at wrong
  | cons b bytes ih =>
    obtain ⟨stray | ⟨c, small⟩, single⟩ := single
    · rw [afterBroken?_of_broken stray] at wrong
      cases wrong
      exact single
    · rw [afterBroken?_of_char small] at wrong
      exact ih single wrong

-- ---------------------------------------------------------------------------
-- How many characters are read
-- ---------------------------------------------------------------------------

theorem decodeLossy_length (b : UInt8) (bytes : List UInt8) :
    (decodeLossy (b :: bytes)).length = 1 + (decodeLossy (next b bytes).rest).length := by
  cases h : next b bytes with
  | char c rest => simp [decodeLossy_of_char h, Item.rest, Nat.add_comm]
  | broken rest => simp [decodeLossy_of_broken h, Item.rest, Nat.add_comm]
  | unfinished => simp [decodeLossy_of_unfinished h, Item.rest]

/-- Bytes that continue a character stand for one replacement each where none has begun. -/
theorem decodeLossy_continues {eaten : List UInt8} (h : ∀ k ∈ eaten, Continues k)
    (rest : List UInt8) :
    (decodeLossy (eaten ++ rest)).length = eaten.length + (decodeLossy rest).length := by
  induction eaten with
  | nil => simp
  | cons k eaten ih =>
    have later := ih fun k hk => h k (.tail _ hk)
    rw [List.cons_append, decodeLossy_of_broken (next_of_continues (h k (.head _)) _)]
    simp only [List.length_cons, later]
    omega

/-- A byte that is no item of its own is given up at the cost of a character. -/
theorem cost_of_cut (h : ¬ Alone b bytes) (more : bytes ≠ []) :
    afterBroken? bytes ≠ none ∧
      (decodeLossy (b :: bytes)).length ≤ (decodeLossy bytes).length := by
  obtain ⟨eaten, parts, continues, -⟩ := exists_eaten (rfl : next b bytes = _)
  have some_eaten : eaten ≠ [] := by
    rintro rfl
    cases item : next b bytes with
    | char c rest =>
      rw [item] at parts
      exact h (.inr ⟨c, item.trans (congrArg _ parts.symm)⟩)
    | broken rest =>
      rw [item] at parts
      exact h (.inl (item.trans (congrArg _ parts.symm)))
    | unfinished =>
      rw [item] at parts
      exact more parts
  have counted := decodeLossy_continues continues (next b bytes).rest
  rw [← parts] at counted
  constructor
  · obtain ⟨k, eaten, rfl⟩ := List.exists_cons_of_ne_nil some_eaten
    rw [parts, List.cons_append,
      afterBroken?_of_broken (next_of_continues (continues k (.head _)) _)]
    simp
  · have := List.length_pos_iff.2 some_eaten
    rw [decodeLossy_length, counted]
    omega

/-- What is held back and not at the end stands for a character at least. -/
theorem decodeLossy_length_le {more : List UInt8}
    (fewer : (decodeSoFar (bytes ++ more)).2.length ≤ more.length) :
    (decodeLossy bytes).length ≤ (decodeSoFar (bytes ++ more)).1.length := by
  rw [decodeSoFar_append] at fewer ⊢
  rw [decodeLossy_eq]
  split
  · simp
  · rename_i held
    have read : (decodeSoFar ((decodeSoFar bytes).2 ++ more)).1 ≠ [] := by
      intro nothing
      rw [held_of_nothing nothing, List.length_append] at fewer
      have := List.length_pos_iff.2 held
      omega
    have := List.length_pos_iff.2 read
    simp only [List.length_append, List.length_singleton]
    omega

-- ---------------------------------------------------------------------------
-- Where an item begins
-- ---------------------------------------------------------------------------

/-- Bytes up to the beginning of an item behind a wrong sequence: what `before` is read as does
not depend on more than the first of the bytes `after` it. -/
structure Boundary (before after : List UInt8) (chars : List Char) : Prop where
  reads : ∀ y, after.take 1 <+: y →
    decodeSoFar (before ++ y) = (chars ++ (decodeSoFar y).1, (decodeSoFar y).2)
  wrong : ∀ y, after.take 1 <+: y → afterBroken? (before ++ y) ≠ none

/-- An item begins after the first wrong sequence. -/
theorem exists_boundary (wrong : afterBroken? bytes = some rest) :
    ∃ before chars, bytes = before ++ rest ∧ Boundary before rest chars := by
  induction bytes using afterBroken?.induct with
  | case1 => simp at wrong
  | case2 b bytes c later h _ ih =>
    rw [afterBroken?_of_char h] at wrong
    obtain ⟨before, chars, rfl, boundary⟩ := ih wrong
    obtain ⟨eaten, rfl, -, later_h⟩ := exists_eaten h
    refine ⟨b :: (eaten ++ before), c :: chars, by simp [Item.rest], fun y hy => ?_, fun y hy => ?_⟩
    all_goals
      have read : next b (eaten ++ (before ++ y)) = .char c (before ++ y) := by
        apply later_h (by simp)
        rcases before with _ | ⟨d, before⟩
        · exact hy
        · simp [Item.rest]
    · simp [decodeSoFar_of_char read, boundary.reads y hy]
    · simpa [afterBroken?_of_char read] using boundary.wrong y hy
  | case3 b bytes later h =>
    rw [afterBroken?_of_broken h] at wrong
    cases wrong
    obtain ⟨eaten, rfl, -, later_h⟩ := exists_eaten h
    refine ⟨b :: eaten, [replacement], by simp [Item.rest], fun y hy => ?_, fun y hy => ?_⟩
    · simp [decodeSoFar_of_broken (later_h (by simp) y hy)]
    · simp [afterBroken?_of_broken (later_h (by simp) y hy)]
  | case4 b bytes h => simp [afterBroken?_of_unfinished h] at wrong

theorem Boundary.lossy {before after : List UInt8} {chars : List Char}
    (boundary : Boundary before after chars) {y : List UInt8} (hy : after.take 1 <+: y) :
    decodeLossy (before ++ y) = chars ++ decodeLossy y := by
  rw [decodeLossy_eq, boundary.reads y hy, decodeLossy_eq, List.append_assoc]

/-- After an item of one byte the next one begins. -/
theorem Boundary.next {before after : List UInt8} {chars : List Char}
    (boundary : Boundary before (b :: after) chars)
    (single : Alone b after) :
    ∃ chars, Boundary (before ++ [b]) after chars := by
  rcases single with stray | ⟨c, small⟩
  · obtain ⟨eaten, parts, -, later_h⟩ := exists_eaten stray
    obtain rfl : eaten = [] := by simpa [Item.rest] using parts
    refine ⟨chars ++ [replacement], fun y hy => ?_, fun y hy => ?_⟩
    · have first := boundary.reads (b :: y) (by simp)
      have read : Utf8.next b y = .broken y := later_h (by simp) y hy
      simp [first, decodeSoFar_of_broken read]
    · simpa using boundary.wrong (b :: y) (by simp)
  · refine ⟨chars ++ [c], fun y hy => ?_, fun y hy => ?_⟩
    · have first := boundary.reads (b :: y) (by simp)
      simp [first, decodeSoFar_of_char (next_of_small small y)]
    · simpa using boundary.wrong (b :: y) (by simp)

end Retrace.Text.Utf8
