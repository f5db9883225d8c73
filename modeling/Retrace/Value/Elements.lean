import Retrace.Text.Blank

/-!
# Elements of an array

The text inside the braces of an array, cut at the commas that are neither
between quotes nor inside inner braces. A closing brace without an opening one
counts for nothing.
-/

namespace Retrace.Elements

/-- Where a scan through an array stands: the quote that is open, if any, and how many braces
are open. -/
structure Scan where
  quote : Option Char
  depth : Nat
  deriving DecidableEq, Repr

namespace Scan

/-- Outside of quotes and braces. -/
def top : Scan := ⟨none, 0⟩

/-- The scan after one more character. -/
def next (scan : Scan) (c : Char) : Scan :=
  match scan.quote with
  | some q => if c = q then { scan with quote := none } else scan
  | none =>
    if c = '\x27' ∨ c = '"' then { scan with quote := some c }
    else if c = '{' then { scan with depth := scan.depth + 1 }
    else if c = '}' then { scan with depth := scan.depth - 1 }
    else scan

/-- The scan after a text. -/
def run (scan : Scan) (s : List Char) : Scan :=
  s.foldl next scan

/-- Whether a character here separates elements. -/
def separates (scan : Scan) (c : Char) : Bool :=
  c = ',' && scan = top

end Scan

/-- Puts a character in front of the first piece. -/
def consFirst (c : Char) : List (List Char) → List (List Char)
  | [] => [[c]]
  | piece :: pieces => (c :: piece) :: pieces

/-- The pieces between the separating commas; never empty. -/
def pieces (scan : Scan) : List Char → List (List Char)
  | [] => [[]]
  | c :: rest =>
    if scan.separates c then [] :: pieces scan rest
    else consFirst c (pieces (scan.next c) rest)

/-- The elements: the pieces without the blanks around them, and none that is empty. -/
def split (body : List Char) : List (List Char) :=
  ((pieces .top body).map Text.trim).filter (· ≠ [])

-- ---------------------------------------------------------------------------
-- Elements are no longer than the whole
-- ---------------------------------------------------------------------------

theorem length_le_of_mem_pieces {scan : Scan} {body piece : List Char}
    (h : piece ∈ pieces scan body) : piece.length ≤ body.length := by
  induction body generalizing scan piece with
  | nil => simp_all [pieces]
  | cons c rest ih =>
    simp only [pieces] at h
    split at h
    · rcases List.mem_cons.1 h with rfl | h
      · simp
      · exact Nat.le_succ_of_le (ih h)
    · cases hp : pieces (scan.next c) rest with
      | nil => simp_all [consFirst]
      | cons first others =>
        rw [hp] at h
        rcases List.mem_cons.1 h with rfl | h
        · simpa using ih (hp ▸ List.mem_cons_self ..)
        · exact Nat.le_succ_of_le (ih (hp ▸ List.mem_cons_of_mem _ h))

theorem length_le_of_mem_split {body piece : List Char} (h : piece ∈ split body) :
    piece.length ≤ body.length := by
  obtain ⟨h, -⟩ := List.mem_filter.1 h
  obtain ⟨raw, hraw, rfl⟩ := List.mem_map.1 h
  exact Nat.le_trans (Text.trim_length_le raw) (length_le_of_mem_pieces hraw)

end Retrace.Elements
