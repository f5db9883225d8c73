/-!
# Histories

A history keeps what was recorded in the order of recording. With a capacity it
keeps the latest records only, as many as the capacity says.
-/

namespace Retrace

/-- Records, oldest first. Without a capacity none is ever dropped. -/
structure History (α : Type) where
  records : Array α
  capacity : Option Nat
  deriving Repr, Inhabited

namespace History

variable {α : Type}

/-- The capacity of a session's history unless another one is asked for. -/
def defaultCapacity : Nat := 10000

/-- A capacity of nothing means no capacity. -/
def effective (capacity : Option Nat) : Option Nat :=
  capacity.filter (0 < ·)

/-- A history without records. -/
def new (capacity : Option Nat) : History α :=
  ⟨#[], effective capacity⟩

/-- A history that drops nothing. -/
def unbounded : History α :=
  new none

/-- The latest records, as many as the capacity says. -/
def latest (capacity : Option Nat) (records : Array α) : Array α :=
  match capacity with
  | some max => if max < records.size then records.extract (records.size - max) else records
  | none => records

/-- Adds a record; the oldest one is dropped if there is no room. -/
def push (h : History α) (record : α) : History α :=
  { h with records := latest h.capacity (h.records.push record) }

/-- Changes the capacity; the oldest records are dropped if there is no room. -/
def setCapacity (h : History α) (capacity : Option Nat) : History α :=
  ⟨latest (effective capacity) h.records, effective capacity⟩

/-- Drops all records. -/
def clear (h : History α) : History α :=
  { h with records := #[] }

/-- The record at a place; the oldest one is at place zero. -/
def get? (h : History α) (index : Nat) : Option α :=
  h.records[index]?

def last? (h : History α) : Option α :=
  h.records.back?

def size (h : History α) : Nat :=
  h.records.size

def isEmpty (h : History α) : Bool :=
  h.records.isEmpty

/-- The records, oldest first. -/
def toList (h : History α) : List α :=
  h.records.toList

-- ---------------------------------------------------------------------------
-- What the operations do to the records
-- ---------------------------------------------------------------------------

/-- The latest items of a list, as many as the capacity says. -/
def latestOf (capacity : Option Nat) (items : List α) : List α :=
  match capacity with
  | some max => items.drop (items.length - max)
  | none => items

theorem toList_latest (capacity : Option Nat) (records : Array α) :
    (latest capacity records).toList = latestOf capacity records.toList := by
  unfold latest latestOf
  split
  · next max =>
    split
    · rw [Array.toList_extract, List.extract_eq_take_drop, List.take_of_length_le (by simp)]
      rfl
    · next h =>
      rw [Array.length_toList, Nat.sub_eq_zero_of_le (Nat.le_of_not_lt h), List.drop_zero]
  · rfl

@[simp] theorem toList_new (capacity : Option Nat) : (new capacity : History α).toList = [] :=
  rfl

@[simp] theorem toList_push (h : History α) (record : α) :
    (h.push record).toList = latestOf h.capacity (h.toList ++ [record]) := by
  simp [push, toList, toList_latest]

@[simp] theorem toList_setCapacity (h : History α) (capacity : Option Nat) :
    (h.setCapacity capacity).toList = latestOf (effective capacity) h.toList := by
  simp [setCapacity, toList, toList_latest]

@[simp] theorem toList_clear (h : History α) : h.clear.toList = [] :=
  rfl

end History

end Retrace
