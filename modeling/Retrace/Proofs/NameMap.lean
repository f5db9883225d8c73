import Retrace.NameMap
import Mathlib.Data.List.Basic
import Mathlib.Data.List.Nodup

/-!
# Looking up in tables

What a look-up finds after each way of building a table. Tables that answer every
look-up alike are equal.
-/

namespace Retrace.NameMap

variable {α : Type} {name other : String} {a : α} {entries : List (String × α)}

@[simp] theorem get?_empty (name : String) : (empty : NameMap α).get? name = none :=
  rfl

theorem find?_insertEntry :
    (insertEntry name a entries).find? (·.1 = other) =
      if name = other then some (name, a) else entries.find? (·.1 = other) := by
  induction entries with
  | nil => by_cases h : name = other <;> simp [insertEntry, h]
  | cons head rest ih =>
    obtain ⟨first, b⟩ := head
    simp only [insertEntry]
    split
    · by_cases h : name = other <;> simp [h]
    · split
      · next same => by_cases h : name = other <;> simp [h, ← same]
      · next differs =>
        by_cases h : first = other
        · simp [h, h ▸ differs]
        · simp [h, ih]

theorem get?_insert (m : NameMap α) (name other : String) (a : α) :
    (m.insert name a).get? other = if name = other then some a else m.get? other := by
  simp only [get?, insert, find?_insertEntry]
  split <;> rfl

@[simp] theorem get?_insert_self (m : NameMap α) (name : String) (a : α) :
    (m.insert name a).get? name = some a := by
  rw [get?_insert, if_pos rfl]

/-- Of the entries for a name the last one that is put in counts. -/
theorem get?_foldl_insert (m : NameMap α) (entries : List (String × α)) (name : String) :
    (entries.foldl (fun m (name, a) => m.insert name a) m).get? name =
      ((entries.reverse.find? (·.1 = name)).map (·.2)).or (m.get? name) := by
  induction entries generalizing m with
  | nil => simp
  | cons entry entries ih =>
    obtain ⟨first, a⟩ := entry
    rw [List.foldl_cons, ih, get?_insert, List.reverse_cons, List.find?_append]
    by_cases h : first = name
    · cases entries.reverse.find? (·.1 = name) <;> simp [h]
    · cases entries.reverse.find? (·.1 = name) <;> simp [h]

theorem get?_ofList (entries : List (String × α)) (name : String) :
    (ofList entries).get? name = (entries.reverse.find? (·.1 = name)).map (·.2) := by
  rw [ofList, get?_foldl_insert, get?_empty, Option.or_none]

/-- A name has the last entry for it. -/
theorem get?_ofList_eq_some_iff : (ofList entries).get? name = some a ↔
    ∃ before after, entries = before ++ (name, a) :: after ∧ name ∉ after.map (·.1) := by
  rw [get?_ofList, Option.map_eq_some_iff]
  constructor
  · rintro ⟨⟨first, a⟩, found, rfl⟩
    obtain ⟨same, after, before, cut, others⟩ := List.find?_eq_some_iff_append.1 found
    obtain rfl : first = name := by simpa using same
    refine ⟨before.reverse, after.reverse, by simpa using congrArg List.reverse cut, fun h => ?_⟩
    obtain ⟨entry, listed, same⟩ := List.mem_map.1 h
    simpa [same] using others entry (List.mem_reverse.1 listed)
  · rintro ⟨before, after, rfl, absent⟩
    refine ⟨(name, a), List.find?_eq_some_iff_append.2
      ⟨by simp, after.reverse, before.reverse, by simp, fun entry listed => ?_⟩, rfl⟩
    have differs : entry.1 ≠ name := fun same =>
      absent (List.mem_map.2 ⟨entry, List.mem_reverse.1 listed, same⟩)
    simp [differs]

/-- If no name comes twice, the order of the entries does not matter. -/
theorem find?_reverse (distinct : (entries.map (·.1)).Nodup) (name : String) :
    entries.reverse.find? (·.1 = name) = entries.find? (·.1 = name) := by
  induction entries with
  | nil => rfl
  | cons entry entries ih =>
    obtain ⟨absent, distinct⟩ := List.nodup_cons.1 distinct
    rw [List.reverse_cons, List.find?_append, ih distinct]
    by_cases h : entry.1 = name
    · have missing : entries.find? (·.1 = name) = none := by
        refine List.find?_eq_none.2 fun x hx same => absent (List.mem_map.2 ⟨x, hx, ?_⟩)
        exact (of_decide_eq_true same).trans h.symm
      simp [missing, h]
    · simp [h]

theorem nodup_names (m : NameMap α) : (m.entries.map (·.1)).Nodup := by
  rw [List.Nodup, List.pairwise_map]
  refine m.ascending.imp fun {x y} h same => ?_
  rw [same] at h
  exact String.lt_irrefl _ h

theorem mem_of_get? {m : NameMap α} (h : m.get? name = some a) : (name, a) ∈ m.entries := by
  obtain ⟨x, hx, rfl⟩ := Option.map_eq_some_iff.1 h
  have same : x.1 = name := by simpa using List.find?_some hx
  rw [← same]
  exact List.mem_of_find?_eq_some hx

theorem mem_entries_iff {m : NameMap α} : (name, a) ∈ m.entries ↔ m.get? name = some a := by
  refine ⟨fun h => ?_, mem_of_get?⟩
  have listed : (m.get? name).isSome = true := by
    simp only [get?, Option.isSome_map, List.find?_isSome]
    exact ⟨(name, a), h, decide_eq_true rfl⟩
  obtain ⟨b, hb⟩ := Option.isSome_iff_exists.1 listed
  have entry := List.inj_on_of_nodup_map m.nodup_names (mem_of_get? hb) h rfl
  rw [hb, (Prod.mk.inj entry).2]

/-- Tables that answer every look-up alike are equal. -/
theorem ext_get? {m n : NameMap α} (h : ∀ name, m.get? name = n.get? name) : m = n := by
  have perm : m.entries.Perm n.entries := by
    refine (List.perm_ext_iff_of_nodup m.nodup_names.of_map n.nodup_names.of_map).2 fun (name, a) => ?_
    rw [mem_entries_iff, mem_entries_iff, h]
  refine ext_entries (perm.eq_of_pairwise ?_ m.ascending n.ascending)
  intro x y _ _ less more
  exact absurd (String.lt_trans less more) (String.lt_irrefl _)

theorem get?_map {β : Type} (f : α → β) (m : NameMap α) (name : String) :
    (m.map f).get? name = (m.get? name).map f := by
  rw [get?, get?, map, List.find?_map, Option.map_map, Option.map_map]
  rfl

theorem get?_union (a b : NameMap α) (name : String) :
    (a.union b).get? name = (b.get? name).or (a.get? name) := by
  rw [union, get?_foldl_insert, find?_reverse b.nodup_names]
  rfl

/-- Entries after others are put in over them. -/
theorem ofList_append (first later : List (String × α)) :
    ofList (first ++ later) = (ofList first).union (ofList later) := by
  refine ext_get? fun name => ?_
  rw [get?_union, get?_ofList, get?_ofList, get?_ofList, List.reverse_append, List.find?_append,
    Option.map_or]

-- ---------------------------------------------------------------------------
-- Entries
-- ---------------------------------------------------------------------------

theorem insertEntry_perm (absent : name ∉ entries.map (·.1)) (a : α) :
    (insertEntry name a entries).Perm ((name, a) :: entries) := by
  induction entries with
  | nil => exact .refl _
  | cons entry entries ih =>
    obtain ⟨other, b⟩ := entry
    simp only [List.map_cons, List.mem_cons, not_or] at absent
    simp only [insertEntry, if_neg absent.1]
    split
    · exact .refl _
    · exact ((ih absent.2).cons _).trans (.swap ..)

theorem foldl_insert_perm {m : NameMap α} (absent : ∀ x ∈ entries, x.1 ∉ m.names)
    (distinct : (entries.map (·.1)).Nodup) :
    (entries.foldl (fun m (name, a) => m.insert name a) m).entries.Perm (m.entries ++ entries) := by
  induction entries generalizing m with
  | nil => simp
  | cons entry entries ih =>
    obtain ⟨name, a⟩ := entry
    obtain ⟨later, distinct⟩ := List.nodup_cons.1 distinct
    have first : (m.insert name a).entries.Perm ((name, a) :: m.entries) :=
      insertEntry_perm (absent _ (.head _)) a
    have others : ∀ x ∈ entries, x.1 ∉ (m.insert name a).names := by
      intro x hx h
      rw [names, (first.map (·.1)).mem_iff, List.map_cons] at h
      rcases List.mem_cons.1 h with same | h
      · exact later (List.mem_map.2 ⟨x, hx, same⟩)
      · exact absent x (.tail _ hx) h
    exact (ih others distinct).trans ((first.append_right _).trans List.perm_middle.symm)

/-- If no name comes twice, the table has the entries of the list. -/
theorem ofList_perm (distinct : (entries.map (·.1)).Nodup) :
    (ofList entries).entries.Perm entries :=
  foldl_insert_perm (m := empty) (by simp [names, empty]) distinct

end Retrace.NameMap
