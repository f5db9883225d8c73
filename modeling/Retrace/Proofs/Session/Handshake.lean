import Retrace.Proofs.Session.Frame
import Retrace.Session.Start

/-!
# The handshake

A spawn that succeeds has sent the debugger five commands and has taken its
answer to the last one, with one exception. If the output ends with the answer to
the fourth command, the session is not active any more when it is to ask for the
variables. It asks nothing then, and the spawn succeeds all the same.
-/

namespace Retrace

-- ---------------------------------------------------------------------------
-- A process and what became of it
-- ---------------------------------------------------------------------------

namespace Scripted

variable {c₀ c : Scripted} {lines : List String}

/-- The answers to the next lines, as far as they are heard. -/
def heard (c : Scripted) (n : Nat) : List Char :=
  if c.discarding then [] else (c.script.take n).flatMap (·.output.toList)

/-- The process `c` is `c₀` after these lines. Of the output some was taken, from the start on. -/
structure Follows (c₀ : Scripted) (lines : List String) (c : Scripted) : Prop where
  sent_eq : c.sent = c₀.sent ++ lines
  script_eq : c.script = c₀.script.drop lines.length
  discarding_eq : c.discarding = c₀.discarding
  taken : ∃ taken, c₀.buffer.pending ++ c₀.heard lines.length = taken ++ c.buffer.pending

theorem Follows.refl (c : Scripted) : c.Follows [] c where
  sent_eq := by simp
  script_eq := rfl
  discarding_eq := rfl
  taken := ⟨[], by simp [heard]⟩

theorem Follows.told (h : c₀.Follows lines c) (line : String) :
    c₀.Follows (lines ++ [line]) (c.told line) where
  sent_eq := by simp [h.sent_eq]
  script_eq := by simp [h.script_eq]
  discarding_eq := h.discarding_eq
  taken := by
    obtain ⟨taken, ht⟩ := h.taken
    have next : c₀.heard (lines.length + 1) = c₀.heard lines.length ++ c.answer := by
      simp only [heard, answer, h.script_eq, h.discarding_eq, List.take_add_one,
        List.head?_drop]
      cases c₀.discarding <;> cases c₀.script[lines.length]? <;> simp
    refine ⟨taken, ?_⟩
    rw [List.length_append, List.length_singleton, next, ← List.append_assoc, ht, told_pending,
      List.append_assoc]

/-- Whether an open process ends with its answer to the next line. -/
theorem Follows.told_ended (h : c₀.Follows lines c) (live : c.IsOpen) (line : String) :
    (c.told line).ended = true ↔ c₀.script[lines.length]?.map (·.exits) = some true := by
  rw [Scripted.told_ended, h.script_eq, List.head?_drop, live.2]
  cases c₀.script[lines.length]? <;> simp

theorem Follows.take {p : Pattern} {found : Expectation} {b : Buffer} (h : c₀.Follows lines c)
    (hb : c.buffer.take? p = some (found, b)) : c₀.Follows lines (c.leaving b) where
  sent_eq := h.sent_eq
  script_eq := h.script_eq
  discarding_eq := h.discarding_eq
  taken := by
    obtain ⟨taken, ht⟩ := h.taken
    exact ⟨taken ++ (found.before.toList ++ found.matched.toList), by
      simp [ht, Buffer.text_of_take? hb]⟩

theorem Follows.frame {frame : Frame} {b : Buffer} (h : c₀.Follows lines c)
    (hb : c.buffer.frame? = some (frame, b)) : c₀.Follows lines (c.leaving b) where
  sent_eq := h.sent_eq
  script_eq := h.script_eq
  discarding_eq := h.discarding_eq
  taken := by
    obtain ⟨taken, ht⟩ := h.taken
    obtain ⟨more, hm⟩ := Buffer.text_of_frame? hb
    exact ⟨taken ++ more, by simp [ht, hm]⟩

end Scripted

-- ---------------------------------------------------------------------------
-- The commands
-- ---------------------------------------------------------------------------

theorem get_bind {ε σ α : Type} (f : σ → EStateM ε σ α) (s : σ) : (get >>= f) s = f s s :=
  rfl

namespace Session

variable {L : Type} {s s' : Session Scripted L} {c₀ c : Scripted}

/-- The commands of the handshake. -/
def handshake (s : Session Scripted L) : List String :=
  [s.breakpointCommand, "run", s.excludeCommand, "trace methods 1", "locals"]

/-- The debugger `c`, which started as `c₀`, was sent the whole handshake, and its output is taken
up to the prompt after the answer to the last command. Unless an answer was waiting before, that
prompt is in the reply to the last command. -/
structure Completed (s : Session Scripted L) (c₀ c : Scripted) : Prop where
  follows : c₀.Follows s.handshake c
  taken : ∃ asked frame, c₀.Follows s.handshake.dropLast asked ∧
    (asked.told "locals").buffer.frame? = some (frame, c.buffer) ∧
    (Message.localsAnswer.find? asked.buffer.pending = none →
      ∃ used prompt, Message.IsPrompt prompt ∧ asked.answer = used ++ prompt ++ c.buffer.pending)

theorem Completed.congr {s₁ : Session Scripted L} (h : s₁.Completed c₀ c)
    (same : s₁.handshake = s.handshake) : s.Completed c₀ c := by
  obtain ⟨follows, taken⟩ := h
  rw [same] at follows taken
  exact ⟨follows, taken⟩

/-- A debugger that was sent four commands has not completed the handshake. -/
theorem not_completed (h : c₀.Follows s.handshake.dropLast c) : ¬ s.Completed c₀ c := by
  intro completed
  have lengths := congrArg List.length (h.sent_eq.symm.trans completed.follows.sent_eq)
  simp [handshake] at lengths

/-- A preparation that succeeds has come to its fourth command. -/
theorem prepare_eq_ok (h : prepare (s.withChannel c₀) = .ok () s') :
    ∃ c, c₀.Follows [s.breakpointCommand, "run", s.excludeCommand] c ∧
      (send "trace methods 1" >>= fun _ => locals >>= fun _ => pure ()) (s.withChannel c) =
        .ok () s' := by
  rw [prepare, get_bind] at h
  obtain ⟨-, -, h⟩ := send_bind_eq_ok_iff.1 h
  obtain ⟨_, b₁, set, h⟩ := expect_bind_eq_ok_iff.1 h
  obtain ⟨-, -, h⟩ := send_bind_eq_ok_iff.1 h
  obtain ⟨_, b₂, hit, h⟩ := expect_bind_eq_ok_iff.1 h
  rw [get_bind] at h
  obtain ⟨-, -, h⟩ := send_bind_eq_ok_iff.1 h
  exact ⟨_, ((((Scripted.Follows.refl c₀).told _).take set |>.told _).take hit).told _, h⟩

/-- After the third command a preparation completes the handshake, or the output ends before. -/
theorem prepared_of_follows
    (three : c₀.Follows [s.breakpointCommand, "run", s.excludeCommand] c)
    (h : (send "trace methods 1" >>= fun _ => locals >>= fun _ => pure ()) (s.withChannel c) =
      .ok () s') :
    ∃ c', s' = s.withChannel c' ∧
      ((c₀.script[3]?.map (·.exits) ≠ some true ∧ s.Completed c₀ c') ∨
        (c₀.script[3]?.map (·.exits) = some true ∧ c₀.Follows s.handshake.dropLast c' ∧
          ¬ c'.IsOpen)) := by
  obtain ⟨live, -, h⟩ := send_bind_eq_ok_iff.1 h
  have four : c₀.Follows s.handshake.dropLast (c.told "trace methods 1") := three.told _
  have ending := three.told_ended live "trace methods 1"
  obtain ⟨answer, s₄, asked, h⟩ := bind_eq_ok.1 h
  obtain ⟨⟨⟩, rfl⟩ := EStateM.Result.ok.inj h
  rcases locals_eq_ok_iff.1 asked with ⟨gone, -, rfl⟩ | ⟨frame, -, asked⟩
  · refine ⟨_, rfl, .inr ⟨ending.1 ?_, four, gone⟩⟩
    by_contra alive
    exact gone ⟨live.1, by simpa using alive⟩
  · obtain ⟨b, live', -, hf, rfl⟩ := askLocals_eq_ok_iff.1 asked
    have five : c₀.Follows s.handshake _ := (four.told "locals").frame hf
    refine ⟨_, rfl, .inl ⟨fun ends => ?_, five, _, frame, four, hf, ?_⟩⟩
    · simpa [live'.2] using ending.2 ends
    · exact Buffer.prompt_of_frame? rfl hf

-- ---------------------------------------------------------------------------
-- Starting
-- ---------------------------------------------------------------------------

theorem adopt_eq_ok {C : Type} [Channel C] {c : C} {s s' : Session C L} (h : adopt c s = .ok () s') :
    ∃ target, s' = { s with target := some target } := by
  unfold adopt at h
  split at h
  · exact ⟨_, (EStateM.Result.ok.inj h).2.symm⟩
  · simp at h

variable [Launcher L Scripted]

/-- Which debugger a start launches, and what launches processes after that. A program that runs
apart is launched before. -/
def Launches (s : Session Scripted L) (args : List String) (apart : Bool) (c : Scripted)
    (after : L) : Prop :=
  if apart then
    ∃ target before, Launcher.launch (s.targetCommand args) s.launcher = .ok target before ∧
      Launcher.launch (.attach s.config s.config.port) before = .ok c after
  else Launcher.launch (s.launchCommand args) s.launcher = .ok c after

omit [Launcher L Scripted] in
theorem launch_eq_ok {C : Type} [Launcher L C] {c : C} {s s' : Session C L} {command : Command} :
    launch command s = .ok c s' ↔
      ∃ launcher, Launcher.launch command s.launcher = .ok c launcher ∧
        s' = { s with launcher, journal := s.journal ++ [.launched command] } := by
  unfold launch
  cases Launcher.launch command s.launcher <;> simp [eq_comm]

/-- A start that succeeds has launched a debugger and prepared it. -/
theorem start_eq_ok {args : List String} {apart : Bool} (h : start args apart s = .ok () s') :
    ∃ (c₀ : Scripted) (s₁ s₂ : Session Scripted L), s.Launches args apart c₀ s₁.launcher ∧ s₁.handshake = s.handshake ∧
      prepare (s₁.withChannel c₀) = .ok () s₂ ∧ s' = { s₂ with trace := s₂.trace.clear } := by
  obtain ⟨s₁, s₂, launched, prepared, rfl⟩ : ∃ s₁ s₂,
      launchProcesses args apart s = .ok () s₁ ∧ prepare s₁ = .ok () s₂ ∧
      s' = { s₂ with trace := s₂.trace.clear } := by
    obtain ⟨⟨⟩, s₁, launched, h⟩ := bind_eq_ok.1 h
    obtain ⟨⟨⟩, s₂, prepared, h⟩ := bind_eq_ok.1 h
    exact ⟨s₁, s₂, launched, prepared, (EStateM.Result.ok.inj h).2.symm⟩
  cases apart with
  | false =>
    simp only [launchProcesses, Bool.false_eq_true, if_false, launchDirect, get_bind] at launched
    obtain ⟨c₀, _, hl, launched⟩ := bind_eq_ok.1 launched
    obtain ⟨launcher, direct, rfl⟩ := launch_eq_ok.1 hl
    obtain ⟨-, rfl⟩ := EStateM.Result.ok.inj launched
    exact ⟨c₀, { s with launcher, journal := _ }, s₂, direct, rfl, prepared, rfl⟩
  | true =>
    simp only [launchProcesses, if_true, launchApart, get_bind] at launched
    obtain ⟨target, _, hl, launched⟩ := bind_eq_ok.1 launched
    obtain ⟨before, first, rfl⟩ := launch_eq_ok.1 hl
    obtain ⟨⟨⟩, _, adopted, attached⟩ := bind_eq_ok.1 launched
    obtain ⟨target', rfl⟩ := adopt_eq_ok adopted
    rw [attach, get_bind] at attached
    obtain ⟨c₀, _, hl, attached⟩ := bind_eq_ok.1 attached
    obtain ⟨launcher, second, rfl⟩ := launch_eq_ok.1 hl
    obtain ⟨-, rfl⟩ := EStateM.Result.ok.inj attached
    exact ⟨c₀, { s with launcher, target := some target', journal := _ }, s₂,
      ⟨target, before, first, second⟩, rfl, prepared, rfl⟩

/-- A spawn that succeeds has completed the handshake, unless the output of the debugger ended with
the answer to the fourth command; then the last command was not sent. -/
theorem completed_of_spawn {args : List String} {apart : Bool}
    (h : spawn args apart s = .ok () s') :
    ∃ c₀ c, s.Launches args apart c₀ s'.launcher ∧ s'.debugger = some c ∧
      (s.Completed c₀ c ↔ c₀.script[3]?.map (·.exits) ≠ some true) ∧
      (¬ s.Completed c₀ c →
        c.sent = c₀.sent ++ s.handshake.dropLast ∧ s'.isActive = false) := by
  unfold spawn at h
  split at h
  · next started s₁ hs =>
    obtain ⟨-, rfl⟩ := EStateM.Result.ok.inj h
    obtain ⟨c₀, s₂, s₃, launched, same, prepared, rfl⟩ := start_eq_ok hs
    obtain ⟨c₃, three, prepared⟩ := prepare_eq_ok prepared
    have same : s₂.handshake = s.handshake := same
    obtain ⟨c, rfl, ⟨on, completed⟩ | ⟨ends, follows, gone⟩⟩ := prepared_of_follows three prepared
    · have done : s.Completed c₀ c := completed.congr same
      exact ⟨c₀, c, launched, rfl, ⟨fun _ => on, fun _ => done⟩, fun h => absurd done h⟩
    · rw [same] at follows
      have inactive : (s₂.withChannel c).isActive = false := by
        simpa using mt isActive_withChannel.1 gone
      have missing : ¬ s.Completed c₀ c := not_completed follows
      refine ⟨c₀, c, launched, rfl, ⟨fun h => absurd h missing, fun h => absurd ends h⟩, fun _ => ?_⟩
      exact ⟨follows.sent_eq, inactive⟩
  · simp at h

/-- A debugger that ends with its answer to the fourth command. -/
def cutShort : Scripted where
  script := [
    ⟨"stop in Main.main", "Deferring breakpoint Main.main.\r\n> ", false⟩,
    ⟨"run", "Breakpoint hit: \"thread=main\", Main.main(), line=3 bci=0\r\nmain[1] ", false⟩,
    ⟨"exclude java.*,javax.*,sun.*,com.sun.*,jdk.*", "main[1] ", false⟩,
    ⟨"trace methods 1", "\r\nThe application exited\r\n", true⟩]

/-- A spawn can succeed although the last command was never sent. -/
theorem spawn_cut_short :
    ∃ s' c, spawn [] false (.new "Main" {} ⟨[cutShort], []⟩ : Session Scripted Rehearsal) =
        .ok () s' ∧ s'.debugger = some c ∧ "locals" ∉ c.sent ∧
      ¬ (Session.new "Main" {} ⟨[cutShort], []⟩ : Session Scripted Rehearsal).Completed cutShort c :=
    by
  obtain ⟨s', h⟩ : ∃ s', spawn [] false
      (.new "Main" {} ⟨[cutShort], []⟩ : Session Scripted Rehearsal) = .ok () s' := ⟨_, rfl⟩
  obtain ⟨c₀, c, launched, hc, completed, missing⟩ := completed_of_spawn h
  obtain ⟨rfl, -⟩ := EStateM.Result.ok.inj launched
  have cut : ¬ Completed _ cutShort c := fun done => completed.1 done rfl
  refine ⟨s', c, h, hc, ?_, cut⟩
  rw [(missing cut).1]
  decide

end Session

end Retrace
