import Retrace.Proofs.Debugger.Frame
import Retrace.Proofs.Value.Marks

/-!
# Frames that are read as printed

The arguments are read as printed only if no value of an argument contains the
header of the other variables. Otherwise the arguments end too early, and what is
read has fewer colons than what was printed.
-/

namespace Retrace.Printed

open Message Retrace.Expr

/-- The variables of a list of bindings have the colons of its lines. -/
theorem marksOf_bindings (bindings : List Binding) :
    Variables.marksOf ':' (bindings.map Binding.entry) =
      (feedLines (blockLines bindings)).count ':' := by
  have listed : Variables.marksOf ':' (bindings.map Binding.entry) =
      (feedLines (bindings.map (·.line ++ ['\r']))).count ':' := by
    induction bindings with
    | nil => rfl
    | cons b bindings ih =>
      have first : Variables.entryMarks ':' b.entry = (b.line ++ ['\r']).count ':' := by
        have value : (Value.parse b.value).marks ':' = b.value.toList.count ':' :=
          Value.marks_read (.inr rfl) b.value.toList
        simp [Variables.entryMarks, value, line_eq, Binding.entry]
      rw [List.map_cons, List.map_cons, feedLines_cons, List.count_append, ← first,
        List.count_cons_of_ne (by decide), ← ih]
      simp [Variables.marksOf]
  rw [listed, blockLines, feedLines_cons]
  simp

/-- The variables that are read in a block have at most its colons. -/
theorem marksOf_parse_le (block : String) :
    Variables.marksOf ':' (Variables.parse block).entries ≤ block.toList.count ':' := by
  rw [Variables.parse, Variables.read_eq]
  exact (Variables.marksOf_ofList_le ':' _).trans (Variables.marksOf_bindings_le (.inr rfl) _)

/-- The first occurrence of the header is found, not a later one. -/
theorem before_of_take?_localsHeader {b b' : Buffer} {found : Expectation} {p q : List Char}
    (hb : b.pending = p ++ (localsHeader ++ q))
    (h : b.take? localVariablesHeader = some (found, b')) : found.before.toList <+: p := by
  obtain ⟨x, picks, -, -⟩ := Buffer.picks_of_take? h
  have cut : found.before.toList ++ (x.text ++ x.rest) = p ++ (localsHeader ++ q) :=
    picks.text_eq.trans hb
  rcases List.append_eq_append_iff.1 cut with ⟨t, ht, -⟩ | ⟨t, before, ht⟩
  · exact ht ▸ List.prefix_append ..
  · cases t with
    | nil => simp [before]
    | cons c t =>
      -- The header at `p` would have been passed over.
      have passed := picks.misses p c t before
      rw [← List.cons_append, ← ht] at passed
      have fits := first?_lit "Local variables:" (lastOf none p) q
      have none : localVariablesHeader.expr.first? (lastOf none p) (localsHeader ++ q) = none :=
        first?_eq_none_iff.2 passed
      exact absurd (fits.symm.trans none) (by simp)

/-- If arguments of different names are read as printed, then no value of one contains the header
of the other variables. -/
theorem divided_of_frame? {f : Frame} (distinct : (f.arguments.map (·.name)).Nodup) {b b' : Buffer}
    {read : Retrace.Frame} (hb : b.pending = f.text) (h : b.frame? = some (read, b'))
    (same : read.arguments = scope f.arguments) : f.Divided := by
  rintro argument member ⟨u, v, cut⟩
  obtain ⟨answer, b₁, arguments, b₂, rest, ha, hargs, -, rfl⟩ := Buffer.frame?_eq_some_iff.1 h
  obtain rfl : arguments = scope f.arguments := same
  have quiet : localsAnswer.find? [] = none := by decide +kernel
  obtain ⟨rfl, rfl⟩ := Prod.mk.inj (Option.some.inj (ha.symm.trans (take?_frame quiet hb)))
  rw [Buffer.arguments?, if_pos rfl] at hargs
  obtain ⟨⟨found, b₃⟩, header, read_eq⟩ := Option.map_eq_some_iff.1 hargs
  obtain ⟨read_eq, -⟩ := Prod.mk.inj read_eq
  -- What is taken for the arguments lies before the header in the value, which has a colon.
  obtain ⟨front, later, split⟩ := List.append_of_mem member
  obtain ⟨p, q, block⟩ : ∃ p q, feedLines (blockLines f.arguments) = p ++ (localsHeader ++ q) := by
    refine ⟨feedLines (blockLines front) ++ (argument.name.toList ++ " = ".toList ++ u), v ++
      "\r\n".toList ++ feedLines (later.map (·.line ++ ['\r'])), ?_⟩
    rw [split]
    simp [blockLines, feedLines, Binding.line, ← cut]
  have before : found.before.toList <+: p := by
    refine before_of_take?_localsHeader
      (q := q ++ (localsHeader ++ (feedLines (blockLines f.locals) ++ prompt))) ?_ header
    rw [block, List.append_assoc, List.append_assoc]
  have fewer : found.before.toList.count ':' < (feedLines (blockLines f.arguments)).count ':' := by
    have colon : localsHeader.count ':' = 1 := by decide
    have := before.sublist.count_le ':'
    rw [block, List.count_append, List.count_append, colon]
    omega
  have all : Variables.marksOf ':' (scope f.arguments).entries =
      (feedLines (blockLines f.arguments)).count ':' := by
    have names : (f.arguments.map Binding.entry).map (·.1) = f.arguments.map (·.name) := by
      rw [List.map_map]
      rfl
    rw [scope, Variables.marksOf_ofList ':' (names ▸ distinct), marksOf_bindings]
  have most := marksOf_parse_le found.before
  rw [read_eq, all] at most
  omega

end Retrace.Printed
