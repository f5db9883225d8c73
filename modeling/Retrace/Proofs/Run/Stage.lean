import Retrace.Proofs.Run.Opening
import Retrace.Proofs.Run.Visit

/-!
# From a request to the first step

A request meets a debugger that answers the handshake. What the exchange after
the handshake answers is the answer to the request: the way to the directory and
back, and letting go of the debugger, change nothing about it.
-/

namespace Retrace

variable {config : Config} {request : Request} {site : Site Scripted Rehearsal}
  {script : List Reply} {α : Type}

/-- A site with a debugger for a request: it answers the handshake, and then the commands of a
script. Nothing is to be compiled, the program gets no input, the directory of the request is there,
and class and entry method have names of one word. -/
structure Stage (config : Config) (request : Request) (site : Site Scripted Rehearsal)
    (script : List Reply) : Prop where
  uncompiled : config.compile = false
  silent : request.input? = none
  class_word : ' ' ∉ request.className.toList
  entry_word : ' ' ∉ config.entryMethod.toList
  reachable : ∀ path, request.path = some path →
    ∃ directory, site.files.findDirectory site.directory path .notDirectory = .ok directory
  waiting : site.launcher.waiting.head? =
    some (Printed.rehearsed (Session.new (C := Scripted) request.className config site.launcher) script)

/-- The site of a debugger that answers the handshake for a request, and then a script. -/
def Site.rehearsing (config : Config) (request : Request) (script : List Reply) :
    Site Scripted Rehearsal where
  compiler := { program := config.javac }
  launcher := ⟨[Printed.rehearsed
    (Session.new request.className config ⟨[], []⟩ : Session Scripted Rehearsal) script], []⟩

/-- A request for a class in the current directory meets its debugger there. -/
theorem Stage.of_rehearsing (uncompiled : config.compile = false) (silent : request.input? = none)
    (class_word : ' ' ∉ request.className.toList) (entry_word : ' ' ∉ config.entryMethod.toList)
    (here : request.path = none) (script : List Reply) :
    Stage config request (.rehearsing config request script) script where
  uncompiled := uncompiled
  silent := silent
  class_word := class_word
  entry_word := entry_word
  reachable path h := by simp [here] at h
  waiting := rfl

theorem Trace.openSession_eq (silent : request.input? = none) :
    (openSession request : Talk Scripted Rehearsal Unit) = Session.spawn request.args false := by
  funext s
  have direct : request.feedsStdin = false := by simp [Request.feedsStdin, silent]
  rw [openSession, silent, direct]
  change EStateM.bind _ _ s = _
  rw [EStateM.bind]
  cases Session.spawn request.args false s <;> rfl

/-- The answer of an exchange is how it ends. -/
theorem run'_of_ending {ε σ α : Type} {x : EStateM ε σ α} {result : Except ε α} {s s' : σ}
    (ends : x s = ending result s') : x.run' s = result.toOption := by
  unfold EStateM.run' EStateM.run
  rw [ends]
  cases result <;> rfl

/-- The directory of the request is there. -/
theorem Stage.exists_destination (stage : Stage config request site script) :
    ∃ directory, site.destination request.path = .ok directory := by
  cases given : request.path with
  | none => exact ⟨site.directory, rfl⟩
  | some path => exact stage.reachable path given

/-- The handshake succeeds, with no output left and an empty trace, and the exchange after it gives
the answer. -/
theorem Stage.exists_session (stage : Stage config request site script) :
    ∃ (s : Session Scripted Rehearsal) (c : Scripted), c.Waits [] script ∧ s.trace.toList = [] ∧
      ∀ {α : Type} (body : Talk Scripted Rehearsal α),
        (Trace.run config request body).run' site = body.run' (s.withChannel c) := by
  let s₀ : Session Scripted Rehearsal := Trace.fresh config request site.launcher
  obtain ⟨others, waiting⟩ := List.head?_eq_some_iff.1 stage.waiting
  have launched : Launcher.launch (s₀.launchCommand request.args) s₀.launcher =
      .ok (Printed.rehearsed s₀ script) { site.launcher with
        waiting := others, launched := site.launcher.launched ++ [s₀.launchCommand request.args] } := by
    change Rehearsal.launch _ site.launcher = _
    rw [Rehearsal.launch]
    simp only [waiting]
    rfl
  obtain ⟨s, c, spawned, waits, cleared⟩ :=
    Session.spawn_rehearsed launched stage.class_word stage.entry_word
  obtain ⟨directory, there⟩ := stage.exists_destination
  refine ⟨s, c, waits, by rw [cleared, History.toList_clear], fun body => ?_⟩
  obtain ⟨result, s', ends⟩ := exists_eq_ending (body (s.withChannel c))
  have whole : (Trace.openSession request >>= fun _ => body) s₀ = ending result s' := by
    rw [Trace.openSession_eq stage.silent]
    exact (bind_of_ok spawned).trans ends
  obtain ⟨compiler, ran⟩ := Trace.run_ending there whole
  rw [run'_of_ending ran, run'_of_ending ends]

-- ---------------------------------------------------------------------------
-- Rounds
-- ---------------------------------------------------------------------------

theorem Reply.outputLength_append (script others : List Reply) :
    outputLength (script ++ others) = outputLength script + outputLength others := by
  induction script with
  | nil => simp [outputLength]
  | cons reply script ih => simp [outputLength, ih, Nat.add_assoc]

/-- If every step has some output, a script has at least as many characters as steps. -/
theorem Reply.length_le_outputLength {β : Type} {replies : β → List Reply}
    (nonempty : ∀ x, 1 ≤ outputLength (replies x)) (steps : List β) (others : List Reply) :
    steps.length ≤ outputLength (steps.flatMap replies ++ others) := by
  induction steps with
  | nil => simp
  | cons x steps ih =>
    have := nonempty x
    rw [List.flatMap_cons, List.append_assoc, outputLength_append, List.length_cons]
    omega

namespace Trace

variable {L : Type}

theorem rounds_withChannel (s : Session Scripted L) {c : Scripted} (h : c.Waits [] script) :
    rounds (s.withChannel c) = Reply.outputLength script + 1 := by
  simp [rounds, Session.withChannel, Channel.unread, Scripted.unread, h.pending_eq, h.script_eq]

theorem endedBy_eq_ok_iff {C : Type} {s s' : Session C L} {e : SessionError} {result : Bool → α} {a : α} :
    endedBy e result s = .ok a s' ↔ ∃ exception, ending? e = some exception ∧ a = result exception ∧
      s' = s := by
  unfold endedBy
  cases ending? e <;> simp [eq_comm]

end Trace

end Retrace
