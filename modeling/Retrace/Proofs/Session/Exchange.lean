import Retrace.Channel.Scripted
import Retrace.Proofs.Pattern.Leftmost
import Retrace.Session.Step

/-!
# Exchanges with a rehearsed debugger

When an exchange with a rehearsed process succeeds, and what it leaves behind.
Sending appends the answer of the script to the output that waits; expecting
takes a piece of that output and changes nothing else.
-/

namespace Retrace

theorem bind_eq_ok {ε σ α β : Type} {x : EStateM ε σ α} {f : α → EStateM ε σ β} {s t : σ} {b : β} :
    (x >>= f) s = .ok b t ↔ ∃ a u, x s = .ok a u ∧ f a u = .ok b t := by
  change EStateM.bind x f s = _ ↔ _
  unfold EStateM.bind
  cases h : x s <;> simp

theorem bind_of_ok {ε σ α β : Type} {x : EStateM ε σ α} {f : α → EStateM ε σ β} {s t : σ} {a : α}
    (h : x s = .ok a t) : (x >>= f) s = f a t := by
  change EStateM.bind x f s = _
  rw [EStateM.bind, h]

theorem bind_of_error {ε σ α β : Type} {x : EStateM ε σ α} {f : α → EStateM ε σ β} {s t : σ} {e : ε}
    (h : x s = .error e t) : (x >>= f) s = .error e t := by
  change EStateM.bind x f s = _
  rw [EStateM.bind, h]

-- ---------------------------------------------------------------------------
-- Rehearsed processes
-- ---------------------------------------------------------------------------

namespace Scripted

/-- The process still reads lines. -/
def IsOpen (c : Scripted) : Prop :=
  c.closed = false ∧ c.ended = false

/-- The script has this line next, or nothing at all. -/
def Accepts (c : Scripted) (line : String) : Prop :=
  ∀ reply, c.script.head? = some reply → reply.command = line

/-- The answer that the script has next. -/
def answer (c : Scripted) : List Char :=
  match c.script.head? with
  | some reply => if c.discarding then [] else reply.output.toList
  | none => []

/-- The process after a line that it accepts. -/
def told (c : Scripted) (line : String) : Scripted :=
  { c with
    sent := c.sent ++ [line]
    script := c.script.tail
    buffer := { c.buffer with pending := c.buffer.pending ++ c.answer }
    ended := (c.script.head?.map (·.exits)).getD c.ended }

@[simp] theorem told_sent (c : Scripted) (line : String) : (c.told line).sent = c.sent ++ [line] :=
  rfl

@[simp] theorem told_script (c : Scripted) (line : String) : (c.told line).script = c.script.tail :=
  rfl

@[simp] theorem told_closed (c : Scripted) (line : String) : (c.told line).closed = c.closed :=
  rfl

@[simp] theorem told_pending (c : Scripted) (line : String) :
    (c.told line).buffer.pending = c.buffer.pending ++ c.answer :=
  rfl

theorem told_ended (c : Scripted) (line : String) :
    (c.told line).ended = (c.script.head?.map (·.exits)).getD c.ended :=
  rfl

/-- The process when other output waits. -/
def leaving (c : Scripted) (buffer : Buffer) : Scripted :=
  { c with buffer }

@[simp] theorem leaving_buffer (c : Scripted) (b : Buffer) : (c.leaving b).buffer = b :=
  rfl

@[simp] theorem leaving_sent (c : Scripted) (b : Buffer) : (c.leaving b).sent = c.sent :=
  rfl

@[simp] theorem leaving_script (c : Scripted) (b : Buffer) : (c.leaving b).script = c.script :=
  rfl

/-- The process reads lines, this text of what it wrote waits, and this is the rest of its script. -/
structure Waits (c : Scripted) (pending : List Char) (script : List Reply) : Prop where
  live : c.IsOpen
  heard : c.discarding = false
  pending_eq : c.buffer.pending = pending
  script_eq : c.script = script

variable {c : Scripted} {reply : Reply} {script : List Reply} {pending : List Char}

theorem Waits.accepts (h : c.Waits pending (reply :: script)) : c.Accepts reply.command := by
  intro next hn
  rw [h.script_eq] at hn
  rw [Option.some.inj hn]

theorem Waits.told_pending (h : c.Waits pending (reply :: script)) (line : String) :
    (c.told line).buffer.pending = pending ++ reply.output.toList := by
  simp [told, answer, h.script_eq, h.heard, h.pending_eq]

/-- The process after a line whose answer does not end it. -/
theorem Waits.told (h : c.Waits pending (reply :: script)) (stays : reply.exits = false)
    (line : String) : (c.told line).Waits (pending ++ reply.output.toList) script where
  live := ⟨h.live.1, by simp [told_ended, h.script_eq, stays]⟩
  heard := h.heard
  pending_eq := h.told_pending line
  script_eq := by simp [h.script_eq]

theorem Waits.leaving (h : c.Waits pending script) (b : Buffer) :
    (c.leaving b).Waits b.pending script :=
  ⟨h.live, h.heard, rfl, h.script_eq⟩

theorem send_of_accepts {line : String} {c : Scripted} (live : c.IsOpen) (h : c.Accepts line) :
    send line c = .ok () (c.told line) := by
  have passes : (c.closed || c.ended) = false := by simp [live.1, live.2]
  cases hs : c.script with
  | nil => simp [send, passes, told, answer, hs]
  | cons reply rest =>
    have same : reply.command = line := h reply (by simp [hs])
    cases hd : c.discarding <;> simp [send, passes, told, answer, hs, hd, same, Buffer.feed]

theorem send_eq_ok_iff {line : String} {c c' : Scripted} :
    send line c = .ok () c' ↔ c.IsOpen ∧ c.Accepts line ∧ c' = c.told line := by
  constructor
  · intro h
    have live : c.IsOpen := by
      by_contra shut
      have gone : (c.closed || c.ended) = true := by
        unfold IsOpen at shut
        cases hc : c.closed <;> simp_all
      simp [send, gone] at h
    have accepts : c.Accepts line := by
      rintro reply hr
      by_contra other
      obtain ⟨rest, hs⟩ := List.head?_eq_some_iff.1 hr
      simp [send, live.1, live.2, hs, other] at h
    rw [send_of_accepts live accepts] at h
    exact ⟨live, accepts, (EStateM.Result.ok.inj h).2.symm⟩
  · rintro ⟨live, accepts, rfl⟩
    exact send_of_accepts live accepts

theorem expect_eq_ok_iff {p : Pattern} {limit : Duration} {c c' : Scripted} {found : Expectation} :
    expect p limit c = .ok found c' ↔
      ∃ buffer, c.buffer.take? p = some (found, buffer) ∧ c' = c.leaving buffer := by
  unfold expect
  split
  · next found' buffer taken =>
    simp only [taken, EStateM.Result.ok.injEq, Option.some.injEq, Prod.mk.injEq]
    constructor
    · rintro ⟨rfl, rfl⟩
      exact ⟨buffer, ⟨rfl, rfl⟩, rfl⟩
    · rintro ⟨_, ⟨rfl, rfl⟩, rfl⟩
      exact ⟨rfl, rfl⟩
  · next none =>
    cases c.ended <;> simp [none]

end Scripted

-- ---------------------------------------------------------------------------
-- Sessions
-- ---------------------------------------------------------------------------

namespace Session

variable {L : Type} {s s' : Session Scripted L}

/-- The session with its debugger in another state. -/
def withChannel (s : Session Scripted L) (c : Scripted) : Session Scripted L :=
  { s with debugger := some c }

@[simp] theorem withChannel_debugger (s : Session Scripted L) (c : Scripted) :
    (s.withChannel c).debugger = some c :=
  rfl

@[simp] theorem withChannel_withChannel (s : Session Scripted L) (c c' : Scripted) :
    (s.withChannel c).withChannel c' = s.withChannel c' :=
  rfl

theorem withChannel_eq {c : Scripted} (h : s.debugger = some c) : s.withChannel c = s := by
  cases s
  cases h
  rfl

theorem isActive_withChannel {c : Scripted} : (s.withChannel c).isActive = true ↔ c.IsOpen := by
  simp [isActive, Scripted.IsOpen, Channel.closed, Channel.ended]

theorem isOpen_of_isActive (active : s.isActive = true) : ∃ c, s.debugger = some c ∧ c.IsOpen := by
  cases held : s.debugger with
  | none => simp [isActive, held] at active
  | some c =>
    rw [← withChannel_eq held, isActive_withChannel] at active
    exact ⟨c, rfl, active⟩

theorem send_eq_ok_iff {line : String} {c : Scripted} :
    send line (s.withChannel c) = .ok () s' ↔
      c.IsOpen ∧ c.Accepts line ∧ s' = s.withChannel (c.told line) := by
  have sent := @Scripted.send_eq_ok_iff line c
  simp only [send, withDebugger, withChannel_debugger, Channel.send]
  cases hc : Scripted.send line c with
  | ok a c' =>
    obtain ⟨live, accepts, rfl⟩ := sent.1 hc
    simp [live, accepts, withChannel, eq_comm]
  | error e c' =>
    simp only [reduceCtorEq, false_iff]
    rintro ⟨live, accepts, -⟩
    simp [sent.2 ⟨live, accepts, rfl⟩] at hc

theorem expect_eq_ok_iff {p : Pattern} {found : Expectation} {c : Scripted} :
    expect p (s.withChannel c) = .ok found s' ↔
      ∃ buffer, c.buffer.take? p = some (found, buffer) ∧ s' = s.withChannel (c.leaving buffer) := by
  have taken := @Scripted.expect_eq_ok_iff p s.config.timeout c
  simp only [expect, withDebugger, withChannel_debugger, Channel.expect]
  have limit : (s.withChannel c).config.timeout = s.config.timeout := rfl
  rw [limit]
  cases hc : Scripted.expect p s.config.timeout c with
  | ok found' c' =>
    obtain ⟨buffer, hb, rfl⟩ := taken.1 hc
    constructor
    · rintro ⟨rfl, rfl⟩
      exact ⟨buffer, hb, rfl⟩
    · rintro ⟨_, hb', rfl⟩
      rw [hb] at hb'
      obtain ⟨rfl, rfl⟩ := Prod.mk.inj (Option.some.inj hb')
      rfl
  | error e c' =>
    simp only [reduceCtorEq, false_iff]
    rintro ⟨buffer, hb, -⟩
    simp [taken.2 ⟨buffer, hb, rfl⟩] at hc

-- ---------------------------------------------------------------------------
-- One exchange after another
-- ---------------------------------------------------------------------------

variable {α : Type} {a : α} {c : Scripted}

theorem send_bind_eq_ok_iff {line : String} {next : Unit → Talk Scripted L α} :
    (send line >>= next) (s.withChannel c) = .ok a s' ↔
      c.IsOpen ∧ c.Accepts line ∧ next () (s.withChannel (c.told line)) = .ok a s' := by
  rw [bind_eq_ok]
  constructor
  · rintro ⟨⟨⟩, _, sent, later⟩
    obtain ⟨live, accepts, rfl⟩ := send_eq_ok_iff.1 sent
    exact ⟨live, accepts, later⟩
  · rintro ⟨live, accepts, later⟩
    exact ⟨(), _, send_eq_ok_iff.2 ⟨live, accepts, rfl⟩, later⟩

theorem expect_bind_eq_ok_iff {p : Pattern} {next : Expectation → Talk Scripted L α} :
    (expect p >>= next) (s.withChannel c) = .ok a s' ↔
      ∃ found buffer, c.buffer.take? p = some (found, buffer) ∧
        next found (s.withChannel (c.leaving buffer)) = .ok a s' := by
  rw [bind_eq_ok]
  constructor
  · rintro ⟨found, _, heard, later⟩
    obtain ⟨buffer, taken, rfl⟩ := expect_eq_ok_iff.1 heard
    exact ⟨found, buffer, taken, later⟩
  · rintro ⟨found, buffer, taken, later⟩
    exact ⟨found, _, expect_eq_ok_iff.2 ⟨buffer, taken, rfl⟩, later⟩

-- ---------------------------------------------------------------------------
-- Exchanges of an active session
-- ---------------------------------------------------------------------------

theorem whenActive_of_inactive {C : Type} [Channel C] {s : Session C L}
    (inactive : s.isActive = false) (x : Talk C L α) : whenActive x s = .ok none s := by
  simp [whenActive, inactive]

theorem whenActive_of_active {C : Type} [Channel C] {s : Session C L} (active : s.isActive = true)
    (x : Talk C L α) : whenActive x s = (x >>= fun a => pure (some a)) s := by
  rw [whenActive, if_pos active, ← bind_pure_comp]

theorem whenActive_eq_ok_iff {x : Talk Scripted L α} {answer : Option α} :
    whenActive x (s.withChannel c) = .ok answer s' ↔
      (¬ c.IsOpen ∧ answer = none ∧ s' = s.withChannel c) ∨
      (c.IsOpen ∧ ∃ a, answer = some a ∧ x (s.withChannel c) = .ok a s') := by
  by_cases live : c.IsOpen
  · rw [whenActive_of_active (isActive_withChannel.2 live), bind_eq_ok]
    constructor
    · rintro ⟨a, _, found, ends⟩
      obtain ⟨rfl, rfl⟩ := EStateM.Result.ok.inj ends
      exact .inr ⟨live, a, rfl, found⟩
    · rintro (⟨gone, -⟩ | ⟨-, a, rfl, found⟩)
      · exact absurd live gone
      · exact ⟨a, s', found, rfl⟩
  · have inactive : (s.withChannel c).isActive = false :=
      Bool.eq_false_iff.2 (mt isActive_withChannel.1 live)
    rw [whenActive_of_inactive inactive]
    simp [live, eq_comm]

end Session

end Retrace
