import Retrace.Proofs.Session.Ownership

/-!
# The order of a spawn

A spawn can fail at every point, and what it does up to there is always the beginning of the same
course: it launches the program and waits until it listens, launches the debugger, and sends it the
lines of the handshake, the first ones not before the answer to the line before. The program itself
is sent nothing.
-/

namespace Retrace

-- ---------------------------------------------------------------------------
-- The lines of a dialogue
-- ---------------------------------------------------------------------------

namespace Dialogue

variable {α : Type} {limit : Duration} {d : Dialogue α} {c c' : Scripted} {turns : List Turn}
  {result : Except SessionError α} {lines : List String}

/-- Whatever is found, the lines that are said are the first ones of these. -/
def Speaks : Dialogue α → List String → Prop
  | .done _, _ => True
  | .reject _, _ => True
  | .say line next, lines => ∃ later, lines = line :: later ∧ next.Speaks later
  | .hear _ next, lines => ∀ found, (next found).Speaks lines
  | .look next, lines => ∀ active, (next active).Speaks lines

theorem Course.lines_prefix (h : d.Course limit c turns result c') (speaks : d.Speaks lines) :
    turns.filterMap Turn.line? <+: lines := by
  induction h generalizing lines with
  | said live accepts later ih =>
    obtain ⟨rest, rfl, speaks⟩ := speaks
    simpa using ih speaks
  | refused live script other =>
    obtain ⟨rest, rfl, -⟩ := speaks
    simp
  | heard got later ih => simpa [List.filterMap_cons] using ih (speaks _)
  | looked later ih => exact ih (speaks _)
  | _ => simp [List.filterMap_cons]

/-- A line after a first one that waits for an answer is said only when the answer is found. -/
theorem Course.answered {line : String} {p : Pattern} {next : Expectation → Dialogue α}
    (h : (Dialogue.say line (.hear p next)).Course limit c turns result c')
    (more : 2 ≤ (turns.filterMap Turn.line?).length) :
    ∃ found b later, (c.told line).buffer.take? p = some (found, b) ∧
      turns.filterMap Turn.line? = line :: later.filterMap Turn.line? ∧
      (next found).Course limit ((c.told line).leaving b) later result c' := by
  cases h with
  | shut gone => simp at more
  | refused live script other => simp at more
  | said live accepts later =>
    cases later with
    | ended missing finished => simp [List.filterMap_cons] at more
    | late missing running => simp [List.filterMap_cons] at more
    | heard got later => exact ⟨_, _, _, got, by simp [List.filterMap_cons], later⟩

theorem speaks_prepare (breakpoint exclude : String) :
    (prepare breakpoint exclude).Speaks [breakpoint, "run", exclude, "trace methods 1", "locals"] := by
  refine ⟨_, rfl, fun _ => ⟨_, rfl, fun _ => ⟨_, rfl, _, rfl, fun active => ?_⟩⟩⟩
  cases active with
  | false => trivial
  | true =>
    refine ⟨_, rfl, fun answer => ?_⟩
    dsimp only
    split
    · exact fun _ _ => trivial
    · exact fun _ => trivial

end Dialogue

-- ---------------------------------------------------------------------------
-- The lines of a spawn
-- ---------------------------------------------------------------------------

/-- What the process answers to one of its next lines, as far as it is heard. -/
def Scripted.answerTo (c : Scripted) (n : Nat) : List Char :=
  if c.discarding then [] else (c.script[n]?.map (·.output.toList)).getD []

theorem Scripted.answer_eq (c : Scripted) : c.answer = c.answerTo 0 := by
  unfold answer answerTo
  rw [List.head?_eq_getElem?]
  cases c.script[0]? <;> simp

theorem Scripted.answer_told (c : Scripted) (line : String) (b : Buffer) :
    ((c.told line).leaving b).answer = c.answerTo 1 := by
  rw [answer_eq]
  simp [answerTo, told, leaving]

namespace Session

variable {L : Type}

/-- Lines of the handshake that a debugger was sent after it started as `c`. That it should run the
class was not sent before its output had the answer that the breakpoint is set, and what to step over
not before the output behind that had the answer that the breakpoint is reached. -/
structure Greeted (s : Session Scripted L) (c : Scripted) (lines : List String) : Prop where
  lines_prefix : lines <+: s.handshake
  set_before_run : "run" ∈ lines →
    ∃ set, Message.breakpointSet.find? (c.buffer.pending ++ c.answerTo 0) = some set
  hit_before_exclude : s.excludeCommand ∈ lines →
    ∃ set hit, Message.breakpointSet.find? (c.buffer.pending ++ c.answerTo 0) = some set ∧
      Message.breakpointHit.find? (set.rest ++ c.answerTo 1) = some hit

/-- The first line of the handshake is none of the next two. -/
theorem two_le_of_run_mem {s : Session Scripted L} {lines : List String}
    (first : lines <+: s.handshake) (run : "run" ∈ lines) : 2 ≤ lines.length := by
  have other : "run" ≠ s.breakpointCommand := by
    intro same
    simpa [breakpointCommand] using congrArg String.toList same
  match lines with
  | [] => simp at run
  | [line] =>
    obtain rfl := (List.cons_prefix_cons.1 first).1
    exact absurd (List.mem_singleton.1 run) other
  | _ :: _ :: _ => simp

theorem three_le_of_exclude_mem {s : Session Scripted L} {lines : List String}
    (first : lines <+: s.handshake) (exclude : s.excludeCommand ∈ lines) : 3 ≤ lines.length := by
  have other : s.excludeCommand ∉ [s.breakpointCommand, "run"] := by
    intro same
    rcases List.mem_pair.1 same with same | same <;>
      simpa [excludeCommand, breakpointCommand] using congrArg String.toList same
  by_contra few
  refine other (List.IsPrefix.mem exclude ?_)
  exact List.prefix_of_prefix_length_le first ⟨_, rfl⟩ (by simp; omega)

theorem greeted_of_course {s : Session Scripted L} {c c' : Scripted} {turns : List Turn}
    {limit : Duration} {result : Except SessionError Unit}
    (course : (Dialogue.prepare s.breakpointCommand s.excludeCommand).Course limit c turns result c') :
    s.Greeted c (turns.filterMap Turn.line?) := by
  have first := course.lines_prefix (Dialogue.speaks_prepare _ _)
  refine ⟨first, fun run => ?_, fun exclude => ?_⟩
  · obtain ⟨found, b, later, taken, -, -⟩ := course.answered (two_le_of_run_mem first run)
    obtain ⟨set, isSet, -⟩ := Option.map_eq_some_iff.1 taken
    exact ⟨set, by simpa [Scripted.answer_eq] using isSet⟩
  · have three := three_le_of_exclude_mem first exclude
    obtain ⟨found, b, later, taken, lines, course⟩ := course.answered (Nat.le_of_succ_le three)
    obtain ⟨found', b', -, taken', -, -⟩ := course.answered (by simpa [lines] using three)
    obtain ⟨set, isSet, left⟩ := Option.map_eq_some_iff.1 taken
    obtain ⟨-, rfl⟩ := Prod.mk.inj left
    obtain ⟨hit, isHit, -⟩ := Option.map_eq_some_iff.1 taken'
    exact ⟨set, hit, by simpa [Scripted.answer_eq] using isSet,
      by simpa [Scripted.answer_told] using isHit⟩

end Session

-- ---------------------------------------------------------------------------
-- The launches of a spawn
-- ---------------------------------------------------------------------------

@[simp] theorem Scripted.sent_discard (c : Scripted) : (Channel.discard c).sent = c.sent :=
  rfl

/-- Waiting sends nothing. -/
theorem Scripted.sent_expect (p : Pattern) (limit : Duration) (c : Scripted) :
    (stateAfter (Channel.expect p limit c : EStateM.Result _ _ Expectation)).sent = c.sent := by
  change (stateAfter (expect p limit c)).sent = _
  unfold expect
  split
  · rfl
  · split <;> rfl

theorem Scripted.find?_of_expect {c c' : Scripted} {p : Pattern} {limit : Duration}
    {found : Expectation} (h : Channel.expect p limit c = .ok found c') :
    ∃ m, p.find? c.buffer.pending = some m := by
  obtain ⟨b, taken, -⟩ := expect_eq_ok_iff.1 h
  obtain ⟨m, here, -⟩ := Option.map_eq_some_iff.1 taken
  exact ⟨m, here⟩

namespace Session

variable {L : Type}

/-- All that was sent over the channels of a session. -/
def logs (s : Session Scripted L) : List (List String) :=
  s.channels.map (·.sent)

theorem logs_withChannel (s : Session Scripted L) (c : Scripted) :
    (s.withChannel c).logs = (s.retired ++ s.target.toList).map (·.sent) ++ [c.sent] := by
  simp [logs, channels, withChannel]

theorem shut_sent (c : Scripted) : (shut c).sent = c.sent := by
  cases failing : c.closeError <;> simp [shut, Channel.close, Scripted.close, failing, stateAfter]

/-- Closing sends nothing. -/
@[simp] theorem logs_close (s : Session Scripted L) : s.close.logs = s.logs := by
  cases ht : s.target <;> cases hd : s.debugger <;>
    simp [logs, channels, close, ht, hd, shut_sent]

theorem greeted_nil (s : Session Scripted L) (c : Scripted) : s.Greeted c [] :=
  ⟨List.nil_prefix, by simp, by simp⟩

variable [Launcher L Scripted]

/-- What happened from `s` to `s'`, a part of a spawn: processes were launched with these commands,
among them this program and this debugger, and the debugger was sent these lines. -/
structure Conduct (s s' : Session Scripted L) (args : List String) (apart : Bool)
    (commands : List Command) (target debugger : Option Scripted) (lines : List String) : Prop where
  launcher_eq : s'.launcher = Launcher.after commands s.launcher
  commands_prefix : commands <+: s.launchCommands args apart
  /-- The program was sent nothing, and what was sent before a spawn stays as it is. -/
  logs_eq : s'.logs =
    s.logs ++ (target.map (·.sent)).toList ++ (debugger.map (·.sent ++ lines)).toList
  target_launched : ∀ t ∈ target,
    apart = true ∧ ∃ between, Launcher.launch (s.targetCommand args) s.launcher = .ok t between
  /-- With a program that runs apart, the second command is the one for the debugger. -/
  listens_before : apart = true → 2 ≤ commands.length →
    ∃ t ∈ target, ∃ listens, Message.listening.find? t.buffer.pending = some listens
  debugger_launched : ∀ c ∈ debugger,
    commands = s.launchCommands args apart ∧ s.Launches args apart c s'.launcher
  greeted : ∀ c ∈ debugger, s.Greeted c lines

/-- However the launches end: they were made in order, and nothing was sent. -/
theorem Launching.conduct {s : Session Scripted L} {args : List String} {apart : Bool}
    {ends : EStateM.Result SessionError (Session Scripted L) Unit} (empty : s.Empty)
    (h : Launching s args apart ends) :
    ∃ commands target, Conduct s (stateAfter ends) args apart commands target
        (stateAfter ends).debugger [] ∧ (stateAfter ends).handshake = s.handshake := by
  obtain ⟨no_debugger, no_target⟩ := empty
  cases h with
  | direct launched =>
    refine ⟨[s.launchCommand args], none, ?_, rfl⟩
    constructor <;> simp [Launcher.after, launchCommands, Launches, stateAfter, logs, channels,
      no_debugger, no_target, launched, greeted_nil]
  | undone failed =>
    refine ⟨[s.launchCommand args], none, ?_, rfl⟩
    constructor <;> simp [Launcher.after, launchCommands, stateAfter, logs, channels, no_debugger,
      no_target, failed]
  | targetless failed =>
    refine ⟨[s.targetCommand args], none, ?_, rfl⟩
    constructor <;> simp [Launcher.after, launchCommands, stateAfter, logs, channels, no_debugger,
      no_target, failed]
  | @deaf target target' launcher e launched silent =>
    have quiet := Scripted.sent_expect Message.listening s.config.timeout target
    rw [silent, stateAfter] at quiet
    refine ⟨[s.targetCommand args], some target, ?_, rfl⟩
    constructor <;> simp [Launcher.after, launchCommands, stateAfter, logs, channels, no_debugger,
      no_target, launched, shut_sent, quiet]
  | @unattached target listener between launcher found e launched listens failed =>
    have quiet := Scripted.sent_expect Message.listening s.config.timeout target
    rw [listens, stateAfter] at quiet
    have heard := Scripted.find?_of_expect listens
    refine ⟨[s.targetCommand args, .attach s.config s.config.port], some target, ?_, rfl⟩
    constructor <;> simp [Launcher.after, launchCommands, stateAfter, logs, channels, no_debugger,
      no_target, launched, failed, quiet, heard]
  | @apart target listener debugger between launcher found launched listens attached =>
    have quiet := Scripted.sent_expect Message.listening s.config.timeout target
    rw [listens, stateAfter] at quiet
    have heard := Scripted.find?_of_expect listens
    refine ⟨[s.targetCommand args, .attach s.config s.config.port], some target, ?_, rfl⟩
    constructor <;> simp [Launcher.after, launchCommands, Launches, stateAfter, logs, channels,
      no_debugger, no_target, launched, attached, quiet, heard, greeted_nil]

/-- A preparation sends the debugger lines of the handshake. -/
theorem Conduct.prepared {s s₁ : Session Scripted L} {args : List String} {apart : Bool}
    {commands : List Command} {target : Option Scripted} {c : Scripted}
    (h : Conduct s s₁ args apart commands target (some c) []) (held : s₁.debugger = some c)
    (same : s₁.handshake = s.handshake) :
    ∃ lines, Conduct s (stateAfter (prepare s₁)) args apart commands target (some c) lines := by
  obtain ⟨turns, result, c', course, ends⟩ :=
    (Dialogue.prepare s₁.breakpointCommand s₁.excludeCommand).exists_course s₁ c
  rw [withChannel_eq held, ← Dialogue.run_prepare] at ends
  rw [ends, stateAfter_ending]
  refine ⟨turns.filterMap Turn.line?, h.launcher_eq, h.commands_prefix, ?_, h.target_launched,
    h.listens_before, h.debugger_launched, ?_⟩
  · -- The debugger's log is the last one, and the only one that the preparation changes.
    have before := h.logs_eq
    rw [← withChannel_eq held, logs_withChannel] at before
    simp only [Option.map_some, Option.toList_some, List.append_nil] at before ⊢
    rw [logs_withChannel, List.append_cancel_right before, course.sent_eq]
  · obtain ⟨breakpoint, exclude⟩ : s₁.breakpointCommand = s.breakpointCommand ∧
        s₁.excludeCommand = s.excludeCommand := by simpa [handshake] using same
    rw [breakpoint, exclude] at course
    rintro _ ⟨⟩
    exact greeted_of_course course

section
variable {s s' : Session Scripted L} {args : List String} {apart : Bool} {commands : List Command}
  {target debugger : Option Scripted} {lines : List String}

theorem Conduct.of_close (h : Conduct s.close s' args apart commands target debugger lines) :
    Conduct s s' args apart commands target debugger lines where
  __ := h
  logs_eq := by rw [h.logs_eq, logs_close]
  greeted c held := { h.greeted c held with }

theorem Conduct.close (h : Conduct s s' args apart commands target debugger lines) :
    Conduct s s'.close args apart commands target debugger lines where
  __ := h
  logs_eq := by rw [logs_close, h.logs_eq]

end

/-- Whether it succeeds or not, a spawn launches some of its processes in order, the debugger of a
program that runs apart when the program listens. The debugger is sent lines of the handshake in
order, the first ones after the answers that they wait for. The program is sent nothing. -/
theorem conduct_of_spawn (args : List String) (apart : Bool) (s : Session Scripted L) :
    ∃ commands target debugger lines,
      Conduct s (stateAfter (spawn args apart s)) args apart commands target debugger lines := by
  rcases spawn_cases args apart s with
    ⟨e, s₁, launched, ends⟩ | ⟨s₁, debugger, launched, -, ends⟩
  · obtain ⟨commands, target, conduct, -⟩ := launched.conduct (empty_close s)
    rw [ends]
    exact ⟨commands, target, _, [], conduct.close.of_close⟩
  · obtain ⟨commands, target, conduct, same⟩ := launched.conduct (empty_close s)
    obtain ⟨c, held⟩ := Option.isSome_iff_exists.1 (launched.held (empty_close s)).1
    rw [stateAfter, held] at conduct
    -- A failed preparation closes the channels on top, which sends nothing.
    obtain ⟨lines, conduct⟩ := conduct.prepared held same
    refine ⟨commands, target, some c, lines, ?_⟩
    rcases ends with ⟨prepared, ends⟩ | ⟨e, prepared, ends⟩
    · rw [prepared] at conduct
      rw [ends]
      exact { conduct.of_close with }
    · rw [prepared] at conduct
      rw [ends]
      exact conduct.close.of_close

end Session

end Retrace
