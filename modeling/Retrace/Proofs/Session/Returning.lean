import Retrace.Proofs.Debugger.Misread
import Retrace.Proofs.Session.Variables

/-!
# Steps that leave a method

A step that ends with the exit of a method is recorded with the value that is
returned if that value has no comma and the header does not announce an
exception, and otherwise not. Nothing else in the value makes a difference, nor
do the thread, the place, the listing, the prompts and the form in which the
variables are answered.
-/

namespace Retrace.Session

open Printed

variable {L : Type} {c : Scripted} {modifier : StepModifier} {stale lead prompt prompt' : List Char}
  {answer : LocalsAnswer} {exits : Bool} {script : List Reply}

/-- A step whose answer is taken whole is recorded with the variables that are answered next. -/
theorem exists_recorded (s : Session Scripted L) {output : String} {event : StepEvent}
    (waits : c.Waits stale (⟨modifier.command, output, false⟩ ::
      ⟨"locals", .ofList (answer.text prompt), exits⟩ :: script))
    (read : (c.told modifier.command).buffer.stop? =
      some (event, { (c.told modifier.command).buffer with pending := [] }))
    (isPrompt : Message.IsPrompt prompt) (divided : answer.Divided) (includeLocals : Bool) :
    ∃ c', step modifier includeLocals (s.withChannel c) =
        .ok (some (recordOf event answer.frame includeLocals))
          ({ s with trace := s.trace.push (recordOf event answer.frame includeLocals) }.withChannel
            c') ∧
      c'.buffer.pending = [] ∧ (exits = false → c'.Waits [] script) := by
  have quiet : Message.localsAnswer.find? [] = none := by decide
  obtain ⟨c', asked, taken, later⟩ := exists_frame (s := s)
    ((waits.told rfl modifier.command).leaving
      { (c.told modifier.command).buffer with pending := [] }) quiet isPrompt divided
  exact ⟨c', step_eq_ok_iff.2 (takeStep_eq_ok_iff.2
    ⟨_, _, _, _, waits.live, waits.accepts, read, asked, rfl, rfl⟩), taken, later⟩

/-- The exit of a method is read as it was printed exactly if the value that is returned has no
comma and the header does not announce an exception. Then the step is recorded with this value and
with the variables of the frame, and nothing waits. -/
theorem step_records_exit (s : Session Scripted L) {stop : Stop} {value : String}
    {nonempty : value ≠ ""} {line : ∀ c ∈ value.toList, Message.inLine c = true}
    (exit : stop.title = .exited value nonempty line)
    (waits : c.Waits stale (⟨modifier.command, .ofList (stop.textBetween lead prompt), false⟩ ::
      ⟨"locals", .ofList (answer.text prompt'), exits⟩ :: script))
    (calm : Calm (stale ++ lead)) (isPrompt : Message.IsPrompt prompt)
    (isPrompt' : Message.IsPrompt prompt') (divided : answer.Divided) (includeLocals : Bool) :
    ((∃ record s', step modifier includeLocals (s.withChannel c) = .ok (some record) s' ∧
        record.event = stop.event) ↔
      ',' ∉ value.toList ∧ ¬ Message.exceptionMarker.toList <:+: stop.header) ∧
    (',' ∉ value.toList → ¬ Message.exceptionMarker.toList <:+: stop.header →
      ∃ record c', step modifier includeLocals (s.withChannel c) =
          .ok (some record) ({ s with trace := s.trace.push record }.withChannel c') ∧
        record = recordOf stop.event answer.frame includeLocals ∧
        record.event.kind = .methodExit ∧ record.event.returned = some (.parse value) ∧
        record.event.label = some stop.label ∧ record.event.line = some stop.listed.toNat ∧
        record.event.bci = some stop.bci.toNat ∧ c'.buffer.pending = []) := by
  have pending :
      (c.told modifier.command).buffer.pending = stop.textBetween (stale ++ lead) prompt := by
    rw [waits.told_pending, String.toList_ofList, Stop.textBetween, Stop.textBetween,
      List.append_assoc]
  have recorded (no_comma : ',' ∉ value.toList)
      (unexceptional : ¬ Message.exceptionMarker.toList <:+: stop.header) := by
    have legible : stop.Legible :=
      ⟨fun v hv => by simp_all [Title.returned?], unexceptional, by simp [exit]⟩
    exact exists_recorded s waits (stop?_textBetween legible calm isPrompt pending) isPrompt'
      divided includeLocals
  refine ⟨⟨?_, fun free => ?_⟩, fun no_comma unexceptional => ?_⟩
  · rintro ⟨record, s', stepped, same⟩
    obtain ⟨event, b, asked, s₁, -, -, read, -, rfl, -⟩ :=
      takeStep_eq_ok_iff.1 (step_eq_ok_iff.1 stepped)
    obtain rfl : event = stop.event := same
    have legible := legible_of_stop? calm isPrompt pending read
    exact ⟨legible.plain value (by simp [exit, Title.returned?]), legible.unexceptional⟩
  · obtain ⟨c', stepped, -⟩ := recorded free.1 free.2
    exact ⟨_, _, stepped, rfl⟩
  · obtain ⟨c', stepped, taken, -⟩ := recorded no_comma unexceptional
    exact ⟨_, c', stepped, rfl, by simp [recordOf, Stop.event, exit, Title.kind],
      by simp [recordOf, Stop.event, exit, Title.returned?], rfl, rfl, rfl, taken⟩

end Retrace.Session

namespace Retrace.Printed

open Message

/-- The exit of a method that returns a text. -/
def joinExit (value : String) (nonempty : value ≠ "") (line : ∀ c ∈ value.toList, inLine c = true) :
    Stop where
  title := .exited value nonempty line
  thread := "main"
  className := "Pair"
  method := "join"
  line := 7
  bci := 12
  listed := 7
  gap := "    \t"
  source := "return s;"

end Retrace.Printed

namespace Retrace.Session

open Printed

/-- A debugger that waits with an old prompt. Its next answer is the exit of a method. -/
def returning (value : String) (nonempty : value ≠ "")
    (line : ∀ c ∈ value.toList, Message.inLine c = true) : Scripted where
  buffer := { pending := "worker-1[12] ".toList }
  script :=
    [⟨"step", .ofList ((joinExit value nonempty line).textBetween "> \r\n".toList
          "main[1] ".toList), false⟩,
      ⟨"locals", .ofList (LocalsAnswer.nothing.text "main[1] ".toList), true⟩]

/-- A text that looks like a header and a prompt is recorded as the value that is returned, and one
with a comma is not. -/
theorem step_records_exit_joined :
    (∃ record s', step .plain true ((Session.new "Pair" {} ()).withChannel
          (returning "\"Step completed: main[1] \"" (by decide) (by decide))) =
        .ok (some record) s' ∧
      record.event.returned = some (.parse "\"Step completed: main[1] \"")) ∧
    ¬ ∃ record s', step .plain true ((Session.new "Pair" {} ()).withChannel
          (returning "\"a, b\"" (by decide) (by decide))) = .ok (some record) s' ∧
        record.event = (joinExit "\"a, b\"" (by decide) (by decide)).event := by
  have isPrompt : Message.IsPrompt "main[1] ".toList := isPrompt_prompt
  have calm : Calm ("worker-1[12] ".toList ++ "> \r\n".toList) := by decide
  have waits (value : String) (nonempty : value ≠ "")
      (line : ∀ c ∈ value.toList, Message.inLine c = true) :
      (returning value nonempty line).Waits "worker-1[12] ".toList
        [⟨StepModifier.plain.command,
            .ofList ((joinExit value nonempty line).textBetween "> \r\n".toList
              "main[1] ".toList), false⟩,
          ⟨"locals", .ofList (LocalsAnswer.nothing.text "main[1] ".toList), true⟩] :=
    ⟨⟨rfl, rfl⟩, rfl, rfl, rfl⟩
  have divided : LocalsAnswer.nothing.Divided := trivial
  have exit (value : String) (nonempty : value ≠ "")
      (line : ∀ c ∈ value.toList, Message.inLine c = true) :
      (joinExit value nonempty line).title = .exited value nonempty line := rfl
  constructor
  · obtain ⟨record, c', stepped, -, -, returned, -⟩ :=
      (step_records_exit (Session.new "Pair" {} ())
        (exit "\"Step completed: main[1] \"" (by decide) (by decide))
        (waits _ (by decide) (by decide)) calm isPrompt isPrompt divided true).2
          (by decide) (by decide +kernel)
    exact ⟨record, _, stepped, returned⟩
  · intro recorded
    have free := ((step_records_exit (Session.new "Pair" {} ())
      (exit "\"a, b\"" (by decide) (by decide))
      (waits _ (by decide) (by decide)) calm isPrompt isPrompt divided true).1.1 recorded).1
    exact absurd free (by decide)

end Retrace.Session
