import Retrace.Proofs.Debugger.Shapes
import Retrace.Proofs.Session.Exchange

/-!
# Reading a frame

The answer to a request for variables is taken in up to three pieces: its first
phrase, the arguments up to the header of the other variables, and these up to
the prompt. What the pieces say is the frame.
-/

namespace Retrace

namespace Buffer

variable {b b' : Buffer} {frame : Frame} {found : Expectation} {p : Pattern}

/-- The arguments after the first phrase of an answer, if the phrase announces them. -/
def arguments? (b : Buffer) (phrase : String) : Option (Variables × Buffer) :=
  if phrase = Message.methodArgumentsHeader then
    (b.take? Message.localVariablesHeader).map fun (found, b) => (Variables.parse found.before, b)
  else some (.empty, b)

/-- The frame in the output that waits, and the output after it. -/
def frame? (b : Buffer) : Option (Frame × Buffer) := do
  let (answer, b) ← b.take? Message.localsAnswer
  let (arguments, b) ← b.arguments? answer.matched
  let (rest, b) ← b.take? Message.prompt
  return ({ arguments, locals := Variables.parse rest.before }, b)

theorem frame?_eq_some_iff :
    b.frame? = some (frame, b') ↔
      ∃ answer b₁ arguments b₂ rest, b.take? Message.localsAnswer = some (answer, b₁) ∧
        b₁.arguments? answer.matched = some (arguments, b₂) ∧
        b₂.take? Message.prompt = some (rest, b') ∧
        frame = { arguments, locals := Variables.parse rest.before } := by
  constructor
  · intro h
    obtain ⟨⟨answer, b₁⟩, ha, h⟩ := Option.bind_eq_some_iff.1 h
    obtain ⟨⟨arguments, b₂⟩, hb, h⟩ := Option.bind_eq_some_iff.1 h
    obtain ⟨⟨rest, b₃⟩, hc, h⟩ := Option.bind_eq_some_iff.1 h
    obtain ⟨rfl, rfl⟩ := Prod.mk.inj (Option.some.inj h)
    exact ⟨answer, b₁, arguments, b₂, rest, ha, hb, hc, rfl⟩
  · rintro ⟨answer, b₁, arguments, b₂, rest, ha, hb, hc, rfl⟩
    simp [frame?, ha, hb, hc]

-- ---------------------------------------------------------------------------
-- What is taken
-- ---------------------------------------------------------------------------

theorem isPrompt_of_take? (h : b.take? Message.prompt = some (found, b')) :
    Message.IsPrompt found.matched.toList :=
  (Message.covers_prompt.1 (covers_of_take? rfl h)).2

theorem text_of_arguments? {phrase : String} {arguments : Variables}
    (h : b.arguments? phrase = some (arguments, b')) : ∃ taken, b.pending = taken ++ b'.pending := by
  unfold arguments? at h
  split at h
  · obtain ⟨⟨found, b₁⟩, taken, h⟩ := Option.map_eq_some_iff.1 h
    obtain ⟨-, rfl⟩ := Prod.mk.inj h
    exact ⟨_, text_of_take? taken⟩
  · obtain ⟨-, rfl⟩ := Prod.mk.inj (Option.some.inj h)
    exact ⟨[], rfl⟩

theorem text_of_frame? (h : b.frame? = some (frame, b')) :
    ∃ taken, b.pending = taken ++ b'.pending := by
  obtain ⟨answer, b₁, arguments, b₂, rest, ha, hargs, hr, -⟩ := frame?_eq_some_iff.1 h
  obtain ⟨taken, ht⟩ := text_of_arguments? hargs
  rw [text_of_take? ha, ht, text_of_take? hr]
  exact ⟨answer.before.toList ++ answer.matched.toList ++ taken ++
    (rest.before.toList ++ rest.matched.toList), by simp⟩

/-- A frame is taken with the prompt after it. If no answer waited before the last piece of output
arrived, then the prompt is in that piece. -/
theorem prompt_of_frame? {stale reply : List Char} (hb : b.pending = stale ++ reply)
    (h : b.frame? = some (frame, b')) (fresh : Message.localsAnswer.find? stale = none) :
    ∃ used prompt, Message.IsPrompt prompt ∧ reply = used ++ prompt ++ b'.pending := by
  obtain ⟨answer, b₁, arguments, b₂, rest, ha, hargs, hr, -⟩ := frame?_eq_some_iff.1 h
  obtain ⟨x, picks, -, left⟩ := picks_of_take? ha
  rw [hb] at picks
  obtain ⟨used, -, rfl⟩ := picks.ends_behind rfl fresh
  obtain ⟨taken, ht⟩ := text_of_arguments? hargs
  have tail : x.rest = taken ++ b₂.pending := left.symm.trans ht
  have last := text_of_take? hr
  exact ⟨used ++ taken ++ rest.before.toList, rest.matched.toList, isPrompt_of_take? hr,
    by simp [tail, last]⟩

end Buffer

-- ---------------------------------------------------------------------------
-- Asking for the variables
-- ---------------------------------------------------------------------------

namespace Session

variable {L : Type} {s s' : Session Scripted L} {c : Scripted} {frame : Frame}

/-- The last piece of an answer. -/
private theorem takeLocals_eq_ok_iff {arguments : Variables} :
    (expect Message.prompt >>= fun rest =>
        pure { arguments, locals := Variables.parse rest.before } : Talk Scripted L Frame)
        (s.withChannel c) = .ok frame s' ↔
      ∃ buffer rest, c.buffer.take? Message.prompt = some (rest, buffer) ∧
        frame = { arguments, locals := Variables.parse rest.before } ∧
        s' = s.withChannel (c.leaving buffer) := by
  rw [expect_bind_eq_ok_iff]
  constructor
  · rintro ⟨rest, buffer, taken, ends⟩
    obtain ⟨rfl, rfl⟩ := EStateM.Result.ok.inj ends
    exact ⟨buffer, rest, taken, rfl, rfl⟩
  · rintro ⟨buffer, rest, taken, rfl, rfl⟩
    exact ⟨rest, buffer, taken, rfl⟩

theorem askLocals_eq_ok_iff :
    askLocals (s.withChannel c) = .ok frame s' ↔
      ∃ buffer, c.IsOpen ∧ c.Accepts "locals" ∧
        (c.told "locals").buffer.frame? = some (frame, buffer) ∧
        s' = s.withChannel ((c.told "locals").leaving buffer) := by
  simp only [Buffer.frame?_eq_some_iff]
  constructor
  · intro h
    obtain ⟨live, accepts, h⟩ := send_bind_eq_ok_iff.1 h
    obtain ⟨answer, b₁, taken, h⟩ := expect_bind_eq_ok_iff.1 h
    split at h
    · next phrase =>
      obtain ⟨found, b₂, header, h⟩ := expect_bind_eq_ok_iff.1 h
      obtain ⟨b₃, rest, prompt, rfl, rfl⟩ := takeLocals_eq_ok_iff.1 h
      have read : b₁.arguments? answer.matched = some (Variables.parse found.before, b₂) := by
        have header : b₁.take? Message.localVariablesHeader = some (found, b₂) := header
        rw [Buffer.arguments?, if_pos phrase, header]
        rfl
      exact ⟨b₃, live, accepts, ⟨answer, b₁, _, b₂, rest, taken, read, prompt, rfl⟩, rfl⟩
    · next phrase =>
      obtain ⟨b₃, rest, prompt, rfl, rfl⟩ := takeLocals_eq_ok_iff.1 h
      have read : b₁.arguments? answer.matched = some (.empty, b₁) := by
        rw [Buffer.arguments?, if_neg phrase]
      exact ⟨b₃, live, accepts, ⟨answer, b₁, _, b₁, rest, taken, read, prompt, rfl⟩, rfl⟩
  · rintro ⟨b₃, live, accepts, ⟨answer, b₁, arguments, b₂, rest, taken, read, prompt, rfl⟩, rfl⟩
    refine send_bind_eq_ok_iff.2 ⟨live, accepts, ?_⟩
    refine expect_bind_eq_ok_iff.2 ⟨answer, b₁, taken, ?_⟩
    unfold Buffer.arguments? at read
    split at read
    · next phrase =>
      obtain ⟨⟨found, b₂⟩, header, h⟩ := Option.map_eq_some_iff.1 read
      obtain ⟨rfl, rfl⟩ := Prod.mk.inj h
      rw [if_pos phrase]
      refine expect_bind_eq_ok_iff.2 ⟨found, b₂, header, ?_⟩
      exact takeLocals_eq_ok_iff.2 ⟨b₃, rest, prompt, rfl, rfl⟩
    · next phrase =>
      obtain ⟨rfl, rfl⟩ := Prod.mk.inj (Option.some.inj read)
      rw [if_neg phrase]
      exact takeLocals_eq_ok_iff.2 ⟨b₃, rest, prompt, rfl, rfl⟩

theorem locals_eq_ok_iff {answer : Option Frame} :
    locals (s.withChannel c) = .ok answer s' ↔
      (¬ c.IsOpen ∧ answer = none ∧ s' = s.withChannel c) ∨
      (∃ frame, answer = some frame ∧ askLocals (s.withChannel c) = .ok frame s') := by
  rw [locals, whenActive_eq_ok_iff]
  refine or_congr_right ⟨fun h => h.2, ?_⟩
  rintro ⟨frame, rfl, asked⟩
  obtain ⟨-, live, -⟩ := askLocals_eq_ok_iff.1 asked
  exact ⟨live, frame, rfl, asked⟩

end Session

end Retrace
