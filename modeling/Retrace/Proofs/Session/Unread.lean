import Retrace.Proofs.Session.Call

/-!
# Output that is still to come

The characters that a debugger can still be heard to write: those that wait and those of the
answers in its script. No exchange with the debugger adds to them, since an answer that arrives only
moves from the script to what waits. A step that is recorded has taken a header, so it has taken
some.
-/

namespace Retrace

namespace Scripted

variable {c : Scripted} {line : String}

theorem unread_told_le (c : Scripted) (line : String) : (c.told line).unread ≤ c.unread := by
  unfold unread told answer
  cases c.script with
  | nil => simp
  | cons reply rest =>
    cases c.discarding <;> simp [Reply.outputLength, Nat.add_assoc, String.length_toList]

theorem unread_refusing_le (c : Scripted) (line : String) : (c.refusing line).unread ≤ c.unread := by
  unfold unread refusing
  cases c.script with
  | nil => simp
  | cons reply rest => simp [Reply.outputLength]

/-- What is taken is not to come any more. -/
theorem unread_leaving {p : Pattern} {found : Expectation} {b : Buffer}
    (got : c.buffer.take? p = some (found, b)) :
    (found.before.toList ++ found.matched.toList).length + (c.leaving b).unread = c.unread := by
  have text := congrArg List.length (Buffer.text_of_take? got)
  rw [List.length_append] at text
  simp only [unread, leaving_buffer, leaving_script, text, Nat.add_assoc]

end Scripted

-- ---------------------------------------------------------------------------
-- Dialogues
-- ---------------------------------------------------------------------------

namespace Dialogue

variable {L α : Type} {limit : Duration} {d : Dialogue α} {c c' : Scripted} {turns : List Turn}
  {result : Except SessionError α}

/-- What was taken and what is still to come was to come before. -/
theorem Course.unread_le (h : d.Course limit c turns result c') :
    (turns.flatMap Turn.taken).length + c'.unread ≤ c.unread := by
  induction h with
  | @said line next c _ _ _ live accepts later ih => exact Nat.le_trans ih (c.unread_told_le line)
  | @refused line next c reply live script other => simpa using c.unread_refusing_le line
  | heard got later ih =>
    have split := Scripted.unread_leaving got
    simp only [List.flatMap_cons, Turn.taken, List.length_append] at ih split ⊢
    omega
  | looked later ih => exact ih
  | _ => simp

/-- A step that succeeds has taken a header, which is some text. -/
theorem Course.taken_pos {modifier : StepModifier} {includeLocals : Bool} {record : StepRecord}
    (h : (step modifier includeLocals).Course limit c turns (.ok record) c') :
    0 < (turns.flatMap Turn.taken).length := by
  cases h with
  | said live accepts later =>
    cases later with
    | @heard _ _ _ _ found _ _ _ got later =>
      obtain ⟨title, line, text, -⟩ :=
        Message.covers_stepHeader.1 (Buffer.covers_of_take? rfl got)
      have ending : 0 < "\r\n".toList.length := by decide
      simp only [List.flatMap_cons, Turn.taken, List.nil_append, text, List.length_append]
      omega

end Dialogue

-- ---------------------------------------------------------------------------
-- Sessions
-- ---------------------------------------------------------------------------

namespace Session

/-- The characters that the debugger of a session can still be heard to write. -/
def unread {C L : Type} [Channel C] (s : Session C L) : Nat :=
  match s.debugger with
  | some c => Channel.unread c
  | none => 0

variable {L α : Type} {s s' : Session Scripted L} {modifier : StepModifier} {includeLocals : Bool}

@[simp] theorem unread_withChannel (s : Session Scripted L) (c : Scripted) :
    (s.withChannel c).unread = c.unread :=
  rfl

/-- No dialogue adds to the output that is still to come. -/
theorem unread_run_le (d : Dialogue α) (s : Session Scripted L) :
    (stateAfter (d.run s)).unread ≤ s.unread := by
  cases held : s.debugger with
  | some c =>
    have same : s.withChannel c = s := withChannel_eq held
    obtain ⟨turns, result, c', course, ends⟩ := d.exists_course s c
    rw [← same, ends, stateAfter_ending, unread_withChannel, unread_withChannel]
    exact Nat.le_trans (Nat.le_add_left _ _) course.unread_le
  | none =>
    obtain ⟨result, debugger, ends, gone⟩ := d.run_ending s
    have none : debugger = none := by simpa [held] using gone
    rw [ends, stateAfter_ending, unread, none]
    exact Nat.zero_le _

theorem unread_locals_le (s : Session Scripted L) : (stateAfter (locals s)).unread ≤ s.unread := by
  rw [locals_eq_run]
  exact unread_run_le _ s

@[simp] theorem unread_recorded (result : Except SessionError StepRecord) (s : Session Scripted L) :
    (recorded result s).unread = s.unread := by
  cases result <;> rfl

/-- No step adds to the output that is still to come. -/
theorem unread_step_le (modifier : StepModifier) (includeLocals : Bool) (s : Session Scripted L) :
    (stateAfter (step modifier includeLocals s)).unread ≤ s.unread := by
  cases active : s.isActive with
  | false =>
    rw [step, whenActive_of_inactive active]
    exact Nat.le_refl _
  | true =>
    obtain ⟨result, debugger, ends, -⟩ := (Dialogue.step modifier includeLocals).run_ending s
    have least := unread_run_le (Dialogue.step modifier includeLocals) s
    rw [ends, stateAfter_ending] at least
    rw [step_of_active active ends, stateAfter_ending, unread_recorded]
    exact least

/-- A step that is recorded takes some of the output that is still to come. -/
theorem unread_lt_of_step {record : StepRecord}
    (h : step modifier includeLocals s = .ok (some record) s') : s'.unread < s.unread := by
  cases active : s.isActive with
  | false => simp [step, whenActive_of_inactive active] at h
  | true =>
    obtain ⟨c, held, -⟩ := isOpen_of_isActive active
    have same : s.withChannel c = s := withChannel_eq held
    obtain ⟨turns, result, c', course, ends⟩ :=
      (Dialogue.step modifier includeLocals).exists_course s c
    rw [same] at ends
    rw [step_of_active active ends] at h
    cases result with
    | error e => simp [ending, Except.map] at h
    | ok record' =>
      obtain ⟨-, rfl⟩ := EStateM.Result.ok.inj h
      rw [unread_recorded, unread_withChannel, ← same, unread_withChannel]
      have taken := course.taken_pos
      have all := course.unread_le
      omega

-- ---------------------------------------------------------------------------
-- Records
-- ---------------------------------------------------------------------------

/-- What happened from `s` to `s'`: these steps were recorded, and each of them took some output. -/
structure Records (s : Session Scripted L) (records : List StepRecord) (s' : Session Scripted L) :
    Prop where
  trace_eq : s'.trace = records.foldl History.push s.trace
  taken : records.length + s'.unread ≤ s.unread

theorem Records.trans {s₁ s₂ s₃ : Session Scripted L} {earlier later : List StepRecord}
    (first : Records s₁ earlier s₂) (second : Records s₂ later s₃) :
    Records s₁ (earlier ++ later) s₃ where
  trace_eq := by rw [second.trace_eq, first.trace_eq, List.foldl_append]
  taken := by
    have := first.taken
    have := second.taken
    rw [List.length_append]
    omega

theorem records_locals (s : Session Scripted L) : Records s [] (stateAfter (locals s)) where
  trace_eq := by
    cases asked : locals s with
    | ok frame s' => exact adds_locals.ok asked
    | error e s' => exact adds_locals.error asked
  taken := by
    rw [List.length_nil, Nat.zero_add]
    exact unread_locals_le s

/-- A step records one step or none. -/
theorem records_step (modifier : StepModifier) (includeLocals : Bool) (s : Session Scripted L) :
    ∃ records, Records s records (stateAfter (step modifier includeLocals s)) := by
  have adds := adds_step (C := Scripted) (L := L) modifier includeLocals
  have least := unread_step_le modifier includeLocals s
  cases stepped : step modifier includeLocals s with
  | error e s' =>
    rw [stepped] at least
    exact ⟨[], adds.error stepped, by simpa using least⟩
  | ok answer s' =>
    rw [stepped] at least
    cases answer with
    | none => exact ⟨[], adds.ok stepped, by simpa using least⟩
    | some record =>
      have taken : 1 + s'.unread ≤ s.unread := by
        rw [Nat.add_comm]
        exact unread_lt_of_step stepped
      exact ⟨[record], adds.ok stepped, taken⟩

end Session
end Retrace
