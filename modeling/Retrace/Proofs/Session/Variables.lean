import Retrace.Proofs.Debugger.Answer
import Retrace.Proofs.NameMap
import Retrace.Proofs.Value.Reading

/-!
# Asking for the variables

A session that asks for the variables reads the answer as what it says, in each
form that an answer can have and with any prompt behind it. What waited before
the answer goes with it, and nothing is left.
-/

namespace Retrace

namespace Printed

/-- The value of a name is the one on its last line. -/
def lastValue? (assignments : List Assignment) (name : String) : Option Value :=
  (assignments.reverse.find? (·.name = name)).map Assignment.read

theorem get?_entries (assignments : List Assignment) (name : String) :
    (NameMap.ofList (assignments.map Assignment.entry)).get? name =
      lastValue? assignments name := by
  rw [NameMap.get?_ofList, ← List.map_reverse, List.find?_map, Option.map_map]
  rfl

/-- The frame has the variables that the answer lists and no others. -/
def LocalsAnswer.Tells : LocalsAnswer → Retrace.Frame → Prop
  | listed arguments locals, frame =>
    ∀ name, frame.arguments.get? name = lastValue? arguments name ∧
      frame.locals.get? name = lastValue? locals name
  | _, frame => frame.arguments = .empty ∧ frame.locals = .empty

theorem LocalsAnswer.tells_frame (a : LocalsAnswer) : a.Tells a.frame := by
  cases a with
  | listed arguments locals =>
    exact fun name => ⟨get?_entries arguments name, get?_entries locals name⟩
  | nothing => exact ⟨rfl, rfl⟩
  | unknown note line => exact ⟨rfl, rfl⟩

end Printed

namespace Session

open Printed

variable {L : Type} {s : Session Scripted L} {c : Scripted} {stale prompt : List Char}
  {answer : LocalsAnswer} {exits : Bool} {script : List Reply}

/-- The answer of a script is read as the frame that it stands for. -/
theorem exists_frame
    (waits : c.Waits stale (⟨"locals", .ofList (answer.text prompt), exits⟩ :: script))
    (quiet : Message.localsAnswer.find? stale = none) (isPrompt : Message.IsPrompt prompt)
    (divided : answer.Divided) :
    ∃ c', locals (s.withChannel c) = .ok (some answer.frame) (s.withChannel c') ∧
      c'.buffer.pending = [] ∧ (exits = false → c'.Waits [] script) := by
  have pending := (waits.told_pending "locals").trans (by rw [String.toList_ofList])
  have read := LocalsAnswer.frame?_text quiet divided isPrompt pending
  refine ⟨_, locals_eq_ok_iff.2 (.inr ⟨answer.frame, rfl,
    askLocals_eq_ok_iff.2 ⟨_, waits.live, waits.accepts, read, rfl⟩⟩), rfl, fun stays => ?_⟩
  exact (waits.told stays "locals").leaving { (c.told "locals").buffer with pending := [] }

/-- A session whose debugger waits with any text in which there is no answer yet reads each form of
an answer exactly, and takes it with the prompt behind it. -/
theorem locals_tell
    (waits : c.Waits stale (⟨"locals", .ofList (answer.text prompt), exits⟩ :: script))
    (quiet : Message.localsAnswer.find? stale = none) (isPrompt : Message.IsPrompt prompt)
    (divided : answer.Divided) :
    ∃ frame c', locals (s.withChannel c) = .ok (some frame) (s.withChannel c') ∧
      answer.Tells frame ∧ c'.buffer.pending = [] := by
  obtain ⟨c', read, taken, -⟩ := exists_frame waits quiet isPrompt divided
  exact ⟨answer.frame, c', read, answer.tells_frame, taken⟩

/-- Variables whose values look like prompts and like other answers. -/
def confusingLocals : List Assignment :=
  [{ name := "a", value := " \"No local variables\"" },
    { name := "b", value := "main[1] Method arguments:" },
    { name := "a", value := "\"main[1] Local variables:\" " }]

def confusing : LocalsAnswer :=
  .listed [{ name := "words", value := "instance of java.lang.String[2] (id=422)" }] confusingLocals

/-- A debugger that waits at a breakpoint. Old prompts and the banner were not taken. -/
def suspended : Scripted where
  buffer := { pending := "> \r\nBreakpoint hit: \"thread=main\", Main.main()\r\n\r\nmain[1] ".toList }
  script := [⟨"locals", .ofList (confusing.text "worker-1[12] ".toList), false⟩]

/-- The values are read although they look like prompts and like other answers. -/
theorem locals_tell_confusing :
    suspended.Waits suspended.buffer.pending
        [⟨"locals", .ofList (confusing.text "worker-1[12] ".toList), false⟩] ∧
      Message.localsAnswer.find? suspended.buffer.pending = none ∧
      Message.IsPrompt "worker-1[12] ".toList ∧ confusing.Divided ∧
      ∃ frame c', locals ((Session.new "Main" {} ()).withChannel suspended) =
          .ok (some frame) ((Session.new "Main" {} ()).withChannel c') ∧
        frame.locals.get? "a" = some (.string "main[1] Local variables:") ∧
        c'.buffer.pending = [] := by
  have waits : suspended.Waits suspended.buffer.pending
      [⟨"locals", .ofList (confusing.text "worker-1[12] ".toList), false⟩] :=
    ⟨⟨rfl, rfl⟩, rfl, rfl, rfl⟩
  have quiet : Message.localsAnswer.find? suspended.buffer.pending = none := by decide +kernel
  have isPrompt : Message.IsPrompt "worker-1[12] ".toList :=
    ⟨"worker-1".toList, "12".toList, rfl, by decide, by decide⟩
  have divided : confusing.Divided := by decide +kernel
  obtain ⟨frame, c', read, tells, taken⟩ := locals_tell waits quiet isPrompt divided
  have trimmed : Text.trim "\"main[1] Local variables:\" ".toList =
      '"' :: ("main[1] Local variables:".toList ++ ['"']) := by decide +kernel
  have last : lastValue? confusingLocals "a" =
      some (.read (Text.trim "\"main[1] Local variables:\" ".toList)) := rfl
  refine ⟨waits, quiet, isPrompt, divided, frame, c', read, (tells "a").2.trans ?_, taken⟩
  rw [last, trimmed, Value.read_quoted]
  rfl

end Session

end Retrace
