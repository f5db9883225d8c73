import Retrace.Proofs.Debugger.Answer

/-!
# Reading a printed frame

The answer to a request for variables is taken whole, and its frame is the one
that was printed, if no value of an argument contains the header of the other
variables. What waited before the answer makes no difference as long as there is
no answer in it.
-/

namespace Retrace.Printed

open Message Retrace.Expr

-- ---------------------------------------------------------------------------
-- Lines of variables
-- ---------------------------------------------------------------------------

theorem line_eq (b : Binding) : b.line = (b.name.toList ++ [' ']) ++ '=' :: ' ' :: b.value.toList :=
  b.assignment.line_eq

/-- The lines of variables after the end of another line. -/
def blockLines (bindings : List Binding) : List (List Char) :=
  ['\r'] :: bindings.map (·.line ++ ['\r'])

theorem assignedLines_eq (bindings : List Binding) :
    assignedLines (bindings.map Binding.assignment) = blockLines bindings := by
  simp [assignedLines, blockLines, Function.comp_def]

theorem assigned_listing (bindings : List Binding) :
    assigned (bindings.map Binding.assignment) = listing bindings := by
  simp [assigned, listing, List.flatMap_map]

theorem scope_eq (bindings : List Binding) :
    .ofList ((bindings.map Binding.assignment).map Assignment.entry) = scope bindings := by
  simp [scope, Function.comp_def]

-- ---------------------------------------------------------------------------
-- Frames
-- ---------------------------------------------------------------------------

namespace Frame

/-- The first header of other variables is the printed one: none is in the value of an argument. -/
def Divided (f : Frame) : Prop :=
  ∀ b ∈ f.arguments, ¬ localsHeader <:+: b.value.toList

instance (f : Frame) : Decidable f.Divided :=
  inferInstanceAs (Decidable (∀ b ∈ f.arguments, ¬ localsHeader <:+: b.value.toList))

/-- The answer that lists the variables of the frame. -/
def answer (f : Frame) : LocalsAnswer :=
  .listed (f.arguments.map Binding.assignment) (f.locals.map Binding.assignment)

theorem text_answer (f : Frame) : f.answer.text prompt = f.text := by
  have answered : f.answer.text prompt = methodArgumentsHeader.toList ++
      (("\r\n".toList ++ assigned (f.arguments.map Binding.assignment) ++ localsHeader ++
        ("\r\n".toList ++ assigned (f.locals.map Binding.assignment))) ++ prompt) := rfl
  have printed : f.text = methodArgumentsHeader.toList ++ ("\r\n".toList ++ listing f.arguments) ++
      (localsHeader ++ ("\r\n".toList ++ listing f.locals ++ prompt)) := rfl
  rw [answered, printed, assigned_listing, assigned_listing]
  generalize methodArgumentsHeader.toList = header
  generalize "\r\n".toList = ending
  simp only [List.append_assoc]

theorem frame_answer (f : Frame) : f.answer.frame = f.frame := by
  simp only [answer, LocalsAnswer.frame, scope_eq, frame]

theorem Divided.answer {f : Frame} (divided : f.Divided) : f.answer.Divided := by
  intro a ha
  obtain ⟨b, hb, rfl⟩ := List.mem_map.1 ha
  exact divided b hb

end Frame

/-- The header of the arguments is the first phrase of an answer; the rest of its line follows. -/
theorem take?_frame {stale : List Char} (quiet : localsAnswer.find? stale = none) {f : Frame}
    {b : Buffer} (hb : b.pending = stale ++ f.text) :
    b.take? localsAnswer = some (⟨.ofList stale, methodArgumentsHeader⟩,
      { b with pending := feedLines (blockLines f.arguments) ++ (localsHeader ++
        (feedLines (blockLines f.locals) ++ prompt)) }) := by
  rw [← f.text_answer] at hb
  rw [take?_listed quiet hb, assignedLines_eq, assignedLines_eq]

end Retrace.Printed
