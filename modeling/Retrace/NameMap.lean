/-!
# Tables by name

A table holds one entry for each name, in the order of the names. Two tables
that answer every look-up alike are equal, so a table stands for what it says and
not for how it was built.
-/

namespace Retrace

/-- Entries by name, in strictly increasing order of the names. -/
structure NameMap (α : Type) where
  entries : List (String × α)
  ascending : entries.Pairwise (fun a b => a.1 < b.1)

namespace NameMap

variable {α : Type}

/-- No entries. -/
def empty : NameMap α :=
  ⟨[], .nil⟩

instance : Inhabited (NameMap α) := ⟨empty⟩

instance : EmptyCollection (NameMap α) := ⟨empty⟩

instance [DecidableEq α] : DecidableEq (NameMap α) := fun a b =>
  if h : a.entries = b.entries then
    isTrue (by cases a; cases b; cases h; rfl)
  else
    isFalse (fun e => h (e ▸ rfl))

instance [Repr α] : Repr (NameMap α) := ⟨fun m p => reprPrec m.entries p⟩

theorem ext_entries {a b : NameMap α} (h : a.entries = b.entries) : a = b := by
  cases a; cases b; cases h; rfl

-- ---------------------------------------------------------------------------
-- Looking up
-- ---------------------------------------------------------------------------

/-- The entry of a name. -/
def get? (m : NameMap α) (name : String) : Option α :=
  (m.entries.find? (·.1 = name)).map (·.2)

/-- Whether a name has an entry. -/
def contains (m : NameMap α) (name : String) : Bool :=
  (m.get? name).isSome

def isEmpty (m : NameMap α) : Bool :=
  m.entries.isEmpty

def size (m : NameMap α) : Nat :=
  m.entries.length

/-- The names that have an entry, in order. -/
def names (m : NameMap α) : List String :=
  m.entries.map (·.1)

-- ---------------------------------------------------------------------------
-- Changing
-- ---------------------------------------------------------------------------

/-- Puts an entry in its place; an entry of the same name gives way. -/
def insertEntry (name : String) (a : α) : List (String × α) → List (String × α)
  | [] => [(name, a)]
  | (other, b) :: rest =>
    if name < other then (name, a) :: (other, b) :: rest
    else if name = other then (name, a) :: rest
    else (other, b) :: insertEntry name a rest

theorem mem_insertEntry {name : String} {a : α} {entries : List (String × α)}
    {x : String × α} (h : x ∈ insertEntry name a entries) : x = (name, a) ∨ x ∈ entries := by
  induction entries with
  | nil => simpa [insertEntry] using h
  | cons head rest ih =>
    obtain ⟨other, b⟩ := head
    simp only [insertEntry] at h
    split at h
    · simpa using h
    · split at h
      · rcases List.mem_cons.1 h with h | h
        · exact .inl h
        · exact .inr (List.mem_cons_of_mem _ h)
      · rcases List.mem_cons.1 h with h | h
        · exact .inr (h ▸ List.mem_cons_self ..)
        · rcases ih h with h | h
          · exact .inl h
          · exact .inr (List.mem_cons_of_mem _ h)

/-- Names are ordered by their characters, so of two different ones one comes first. -/
theorem lt_of_not_lt_of_ne {a b : String} (h : ¬ a < b) (hne : a ≠ b) : b < a := by
  apply Decidable.byContradiction
  intro h'
  exact hne (String.le_antisymm h' h)

theorem insertEntry_ascending {name : String} {a : α} {entries : List (String × α)}
    (h : entries.Pairwise (fun a b => a.1 < b.1)) :
    (insertEntry name a entries).Pairwise (fun a b => a.1 < b.1) := by
  induction entries with
  | nil => simp [insertEntry]
  | cons head rest ih =>
    obtain ⟨other, b⟩ := head
    obtain ⟨first, later⟩ := List.pairwise_cons.1 h
    simp only [insertEntry]
    split
    · next hlt =>
      refine List.pairwise_cons.2 ⟨?_, h⟩
      intro x hx
      rcases List.mem_cons.1 hx with hx | hx
      · exact hx ▸ hlt
      · exact String.lt_trans hlt (first x hx)
    · next hlt =>
      split
      · next heq => exact List.pairwise_cons.2 ⟨heq ▸ first, later⟩
      · next hne =>
        refine List.pairwise_cons.2 ⟨?_, ih later⟩
        intro x hx
        rcases mem_insertEntry hx with hx | hx
        · exact hx ▸ lt_of_not_lt_of_ne hlt hne
        · exact first x hx

/-- The table with an entry for a name; the name's earlier entry is lost. -/
def insert (m : NameMap α) (name : String) (a : α) : NameMap α :=
  ⟨insertEntry name a m.entries, insertEntry_ascending m.ascending⟩

/-- The table of a list of entries; of two entries of one name the later one counts. -/
def ofList (entries : List (String × α)) : NameMap α :=
  entries.foldl (fun m (name, a) => m.insert name a) empty

/-- The entries, in the order of the names. -/
def toList (m : NameMap α) : List (String × α) :=
  m.entries

/-- Without the entries whose name fails a test. -/
def filterNames (p : String → Bool) (m : NameMap α) : NameMap α :=
  ⟨m.entries.filter (fun x => p x.1), m.ascending.sublist List.filter_sublist⟩

/-- The same names, with the entries changed. -/
def map {β : Type} (f : α → β) (m : NameMap α) : NameMap β :=
  ⟨m.entries.map (fun x => (x.1, f x.2)), List.pairwise_map.2 m.ascending⟩

/-- Both tables together; the second one counts where both have an entry. -/
def union (a b : NameMap α) : NameMap α :=
  b.entries.foldl (fun m (name, x) => m.insert name x) a

/-- Whether two tables have the same names and equal entries. -/
def equalBy (eq : α → α → Bool) (a b : NameMap α) : Bool :=
  a.entries.length == b.entries.length &&
    (a.entries.zip b.entries).all fun (x, y) => x.1 == y.1 && eq x.2 y.2

end NameMap

end Retrace
