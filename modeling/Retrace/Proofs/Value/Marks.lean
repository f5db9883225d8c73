import Retrace.Proofs.NameMap
import Retrace.Proofs.Value.Reading
import Retrace.Proofs.Value.Variables
import Mathlib.Data.List.Basic
import Mathlib.Algebra.BigOperators.Group.List.Basic
import Mathlib.Algebra.GroupWithZero.Nat

/-!
# What reading a value keeps

Reading a value drops blanks, quotes, braces and commas, and turns some texts
into numbers. An equals sign or a colon is never dropped: the value has as many
of them as its text, so two texts with different numbers of them are read as
different values.
-/

namespace Retrace

/-- A character that no value but a text can have. -/
def IsMark (c : Char) : Prop :=
  c = '=' ∨ c = ':'

variable {c : Char} {s : List Char}

namespace Value

mutual

/-- How often a character occurs in the texts of a value. -/
def marks (c : Char) : Value → Nat
  | .string s | .reference s => s.toList.count c
  | .array items => marksOfAll c items
  | _ => 0

/-- How often a character occurs in the texts of values. -/
def marksOfAll (c : Char) : List Value → Nat
  | [] => 0
  | item :: rest => marks c item + marksOfAll c rest

end

theorem marksOfAll_eq_sum (c : Char) (items : List Value) :
    marksOfAll c items = (items.map (marks c)).sum := by
  induction items with
  | nil => rfl
  | cons item rest ih => simp [marksOfAll, ih]

end Value

-- ---------------------------------------------------------------------------
-- Trimming and cutting
-- ---------------------------------------------------------------------------

theorem IsMark.not_blank (h : IsMark c) : Text.isBlank c = false := by
  rcases h with rfl | rfl <;> decide

theorem IsMark.not_digit (h : IsMark c) : c.isDigit = false := by
  rcases h with rfl | rfl <;> decide

theorem count_trim (h : IsMark c) (s : List Char) : (Text.trim s).count c = s.count c := by
  obtain ⟨u, v, hs, hu, hv⟩ := Text.exists_trim s
  have blanks (t : List Char) (ht : ∀ d ∈ t, Text.isBlank d = true) : t.count c = 0 :=
    List.count_eq_zero.2 fun hc => by simpa [h.not_blank] using ht c hc
  conv_rhs => rw [hs]
  simp [blanks u hu, blanks v hv]

namespace Elements

theorem sum_count_consFirst (d : Char) (pieces : List (List Char)) :
    ((consFirst d pieces).map (·.count c)).sum = [d].count c + (pieces.map (·.count c)).sum := by
  cases pieces with
  | nil => simp [consFirst]
  | cons piece pieces =>
    simp only [consFirst, List.map_cons, List.sum_cons, List.count_cons, List.count_nil]
    omega

theorem sum_count_pieces (h : IsMark c) (scan : Scan) (body : List Char) :
    ((pieces scan body).map (·.count c)).sum = body.count c := by
  induction body generalizing scan with
  | nil => simp [pieces]
  | cons d rest ih =>
    simp only [pieces]
    split
    · next separates =>
      have comma : d = ',' := by
        simp only [Scan.separates, Bool.and_eq_true, decide_eq_true_eq] at separates
        exact separates.1
      have other : d ≠ c := by
        rintro rfl
        rcases h with h | h <;> simp [comma] at h
      simp [ih, other]
    · rw [sum_count_consFirst, ih, List.count_cons, List.count_cons, List.count_nil]
      omega

theorem sum_count_split (h : IsMark c) (body : List Char) :
    ((split body).map (·.count c)).sum = body.count c := by
  have nonempty (pieces : List (List Char)) :
      ((pieces.filter (· ≠ [])).map (·.count c)).sum = (pieces.map (·.count c)).sum := by
    induction pieces with
    | nil => rfl
    | cons piece pieces ih => cases piece <;> simp_all
  rw [split, nonempty, List.map_map]
  simp only [Function.comp_def, count_trim h]
  exact sum_count_pieces h .top body

end Elements

-- ---------------------------------------------------------------------------
-- Numbers
-- ---------------------------------------------------------------------------

namespace Numeral

theorem digits?_eq_none (h : IsMark c) (hc : c ∈ s) : digits? s = none := by
  refine if_neg fun all => ?_
  have := List.all_eq_true.1 all.2 c hc
  simp [h.not_digit] at this

theorem mem_takeSign (h : IsMark c) (hc : c ∈ s) : c ∈ (takeSign s).2 := by
  unfold takeSign
  split
  · next rest =>
    rcases List.mem_cons.1 hc with rfl | hc
    · rcases h with h | h <;> simp at h
    · exact hc
  · next rest =>
    rcases List.mem_cons.1 hc with rfl | hc
    · rcases h with h | h <;> simp at h
    · exact hc
  · exact hc

theorem int64?_eq_none (h : IsMark c) (hc : c ∈ s) : int64? s = none := by
  simp [int64?, digits?_eq_none h (mem_takeSign h hc)]

theorem exponent?_eq_none (h : IsMark c) (hc : c ∈ s) : exponent? s = none := by
  cases s with
  | nil => simp at hc
  | cons d rest =>
    simp only [exponent?]
    split
    · next letter =>
      have later : c ∈ rest := by
        rcases List.mem_cons.1 hc with rfl | hc
        · rcases h with rfl | rfl <;> simp at letter
        · exact hc
      simp [digits?_eq_none h (mem_takeSign h later)]
    · rfl

theorem mem_dropWhile_isDigit (h : IsMark c) (hc : c ∈ s) : c ∈ s.dropWhile Char.isDigit := by
  rw [← List.takeWhile_append_dropWhile (p := Char.isDigit) (l := s)] at hc
  rcases List.mem_append.1 hc with hc | hc
  · have := List.mem_takeWhile_imp hc
    simp [h.not_digit] at this
  · exact hc

theorem unsignedDecimal?_eq_none (h : IsMark c) (hc : c ∈ s) (negative : Bool) :
    unsignedDecimal? negative s = none := by
  have after := mem_dropWhile_isDigit h hc
  unfold unsignedDecimal?
  dsimp only
  split
  · next rest point =>
    have later : c ∈ rest := by
      rw [point] at after
      rcases List.mem_cons.1 after with rfl | later
      · rcases h with h | h <;> simp at h
      · exact later
    simp [exponent?_eq_none h (mem_dropWhile_isDigit h later)]
  · simp [exponent?_eq_none h after]

theorem binary64?_eq_none (h : IsMark c) (hc : c ∈ s) : binary64? s = none := by
  have inside := mem_takeSign h hc
  have word (t : String) (free : c ∉ t.toList) :
      String.ofList ((takeSign s).2.map Char.toLower) ≠ t := by
    rintro rfl
    refine free ?_
    rw [String.toList_ofList]
    have lower : c.toLower = c := by rcases h with rfl | rfl <;> decide
    exact List.mem_map.2 ⟨c, inside, lower⟩
  have other (t : String) (ht : t ∈ ["inf", "infinity", "nan"]) : c ∉ t.toList := by
    simp only [List.mem_cons, List.not_mem_nil, or_false] at ht
    rcases h with rfl | rfl <;> rcases ht with rfl | rfl | rfl <;> decide
  simp [binary64?, word "inf" (other _ (by simp)), word "infinity" (other _ (by simp)),
    word "nan" (other _ (by simp)), unsignedDecimal?_eq_none h inside]

end Numeral

-- ---------------------------------------------------------------------------
-- Values
-- ---------------------------------------------------------------------------

namespace Value

theorem count_word (h : IsMark c) (t : String) (ht : t ∈ ["null", "true", "false", "<void value>"]) :
    t.toList.count c = 0 := by
  refine List.count_eq_zero.2 ?_
  simp only [List.mem_cons, List.not_mem_nil, or_false] at ht
  rcases h with rfl | rfl <;> rcases ht with rfl | rfl | rfl | rfl <;> decide

theorem count_unquote? (h : IsMark c) {t : List Char} (hs : unquote? t = some s) :
    t.count c = s.count c := by
  unfold unquote? at hs
  split at hs
  · next q rest =>
    split at hs
    · next closed =>
      obtain rfl := Option.some.inj hs
      obtain ⟨body, rfl⟩ := List.getLast?_eq_some_iff.1 closed.2
      have quote : q ≠ c := by
        rintro rfl
        rcases h with rfl | rfl <;> simp at closed
      simp [quote]
    · simp at hs
  · simp at hs

theorem count_unbrace? (h : IsMark c) {t : List Char} (hs : unbrace? t = some s) :
    t.count c = s.count c := by
  have braces : '{' ≠ c ∧ '}' ≠ c := by rcases h with rfl | rfl <;> decide
  rw [unbrace?_eq_some_iff.1 hs]
  simp [braces.1, braces.2]

theorem marks_readScalar (h : IsMark c) (t : List Char) : (readScalar t).marks c = t.count c := by
  have number {α : Type} {x : Option α} {a : α} (hx : x = some a) (hn : c ∈ t → x = none) :
      0 = t.count c := (List.count_eq_zero.2 fun hc => by simp [hn hc] at hx).symm
  unfold readScalar
  split
  · next ht =>
    rw [ht]
    exact (count_word h "null" (by simp)).symm
  split
  · next s hs => simp [marks, count_unquote? h hs]
  split
  · next ht =>
    rw [ht]
    exact (count_word h "true" (by simp)).symm
  split
  · next ht =>
    rw [ht]
    exact (count_word h "false" (by simp)).symm
  split
  · next n hn => exact number hn (Numeral.int64?_eq_none h)
  split
  · next x hx => exact number hx (Numeral.binary64?_eq_none h)
  · simp [marks]

/-- A value has as many marks as its text. -/
theorem marks_read (h : IsMark c) (t : List Char) : (read t).marks c = t.count c := by
  rw [read_eq]
  split
  · next ht =>
    rw [ht]
    exact (count_word h "<void value>" (by simp)).symm
  split
  · simp [marks]
  split
  · next body hbody =>
    have items : ∀ piece ∈ Elements.split (Text.trim body), (read piece).marks c = piece.count c :=
      fun piece hp =>
        have : piece.length < t.length :=
          Nat.lt_of_le_of_lt (Nat.le_trans (Elements.length_le_of_mem_split hp)
            (Text.trim_length_le body)) (unbrace?_length_lt hbody)
        marks_read h piece
    rw [marks, marksOfAll_eq_sum, List.map_map, count_unbrace? h hbody, ← count_trim h body,
      ← Elements.sum_count_split h]
    exact congrArg List.sum (List.map_congr_left items)
  · exact marks_readScalar h t
  termination_by t.length

end Value

-- ---------------------------------------------------------------------------
-- Tables of variables
-- ---------------------------------------------------------------------------

namespace Variables

/-- How often a character occurs in the name and the texts of a variable. -/
def entryMarks (c : Char) (entry : String × Value) : Nat :=
  entry.1.toList.count c + entry.2.marks c

/-- How often a character occurs in the names and texts of variables. -/
def marksOf (c : Char) (entries : List (String × Value)) : Nat :=
  (entries.map (entryMarks c)).sum

theorem marksOf_insertEntry_le (c : Char) (name : String) (v : Value)
    (entries : List (String × Value)) :
    marksOf c (NameMap.insertEntry name v entries) ≤ entryMarks c (name, v) + marksOf c entries := by
  induction entries with
  | nil => simp [NameMap.insertEntry, marksOf]
  | cons entry entries ih =>
    obtain ⟨other, w⟩ := entry
    simp only [marksOf, List.map_cons, List.sum_cons] at ih ⊢
    simp only [NameMap.insertEntry]
    split
    · simp
    · split <;> simp only [List.map_cons, List.sum_cons] <;> omega

theorem marksOf_foldl_insert_le (c : Char) (m : Variables) (entries : List (String × Value)) :
    marksOf c (entries.foldl (fun m (name, v) => m.insert name v) m).entries ≤
      marksOf c m.entries + marksOf c entries := by
  induction entries generalizing m with
  | nil => simp [marksOf]
  | cons entry entries ih =>
    obtain ⟨name, v⟩ := entry
    have first : marksOf c (m.insert name v).entries ≤ entryMarks c (name, v) + marksOf c m.entries :=
      marksOf_insertEntry_le c name v m.entries
    have both : marksOf c ((name, v) :: entries) = entryMarks c (name, v) + marksOf c entries := by
      simp [marksOf]
    refine (ih (m.insert name v)).trans ?_
    omega

/-- A table has at most the marks of its entries: of two for one name only one is kept. -/
theorem marksOf_ofList_le (c : Char) (entries : List (String × Value)) :
    marksOf c (NameMap.ofList entries).entries ≤ marksOf c entries := by
  have none : marksOf c (NameMap.empty : Variables).entries = 0 := rfl
  have := marksOf_foldl_insert_le c NameMap.empty entries
  rwa [none, Nat.zero_add] at this

theorem marksOf_ofList (c : Char) {entries : List (String × Value)}
    (distinct : (entries.map (·.1)).Nodup) :
    marksOf c (NameMap.ofList entries).entries = marksOf c entries :=
  ((NameMap.ofList_perm distinct).map (entryMarks c)).sum_eq

/-- The variable on a line has at most the marks of the line. -/
theorem entryMarks_le (h : IsMark c) {entry : String × Value} (hs : readLine? s = some entry) :
    entryMarks c entry ≤ s.count c := by
  rcases line_cases s with free | ⟨name, value, free, rfl⟩
  · simp [readLine?_of_notMem free] at hs
  · rw [readLine?_append free] at hs
    obtain rfl := Option.some.inj hs
    simp only [entryMarks, String.toList_ofList, count_trim h, Value.marks_read h,
      List.count_append, List.count_cons]
    omega

/-- The variables of a block have at most the marks of the block. -/
theorem marksOf_bindings_le (h : IsMark c) (block : List Char) :
    marksOf c (bindings block) ≤ block.count c := by
  have feed : '\n' ≠ c := by rcases h with rfl | rfl <;> decide
  have lines : ((Text.splitOn '\n' block).map (·.count c)).sum = block.count c :=
    Text.sum_count_splitOn feed block
  rw [← lines, bindings]
  generalize Text.splitOn '\n' block = lines
  induction lines with
  | nil => simp [marksOf]
  | cons line lines ih =>
    rw [List.map_cons, List.sum_cons]
    cases hs : readLine? line with
    | none =>
      rw [List.filterMap_cons_none hs]
      omega
    | some entry =>
      rw [List.filterMap_cons_some hs]
      have := entryMarks_le h hs
      simp only [marksOf, List.map_cons, List.sum_cons] at ih ⊢
      omega

end Variables

end Retrace
