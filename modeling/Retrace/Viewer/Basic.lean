import Retrace.Number.Arithmetic
import Retrace.Run.Trace
import Retrace.Viewer.Listing
import Retrace.Viewer.Sources

/-!
# Viewer

The viewer shows one step of a finished trace and moves along the trace in both directions. What
is on the screen depends on its state alone, and its state changes by keys and by drawing. The loop
that waits for keys, and while it waits takes a step every half second if the viewer plays, belongs to
the terminal and is not part of it.
-/

namespace Retrace

/-- The two parts of the screen, one of which has the arrow keys. -/
inductive Viewer.Pane where
  | source
  | frame
  deriving DecidableEq, Repr, Inhabited

/-- A key of the keyboard. -/
inductive Viewer.Key where
  | left
  | right
  | up
  | down
  | tab
  | enter
  | backspace
  | escape
  | char (c : Char)
  | other
  deriving DecidableEq, Repr

/-- A viewer of a trace. -/
structure Viewer where
  steps : Array StepRecord
  exceptionOccurred : Bool
  sources : Viewer.Sources
  /-- Index of the step on the screen. -/
  position : Nat := 0
  focus : Viewer.Pane := .source
  scroll : Viewer.Scroll := {}
  /-- How many lines of the frame pane are scrolled away. -/
  frameScroll : Nat := 0
  quitting : Bool := false
  /-- The trace is shown step by step without keys. -/
  playing : Bool := false
  message : String
  /-- When the space bar was obeyed last, in milliseconds. -/
  lastSpace : Option Nat := none
  deriving Repr, Inhabited

namespace Viewer

/-- A viewer at the first step of a trace. -/
def ofTrace (trace : ProgramTrace) (sources : Sources) : Viewer where
  steps := trace.steps.toArray
  exceptionOccurred := trace.exceptionOccurred
  sources
  message := if trace.steps.isEmpty then "No steps recorded" else "Ready!"

/-- The step on the screen. -/
def current? (v : Viewer) : Option StepRecord :=
  v.steps[v.position]?

-- ---------------------------------------------------------------------------
-- Moving
-- ---------------------------------------------------------------------------

/-- Shows another step, from the top of its frame. -/
def goTo (v : Viewer) (position : Nat) : Viewer :=
  { v with position, frameScroll := 0 }

section
variable {m : Type → Type} [Monad m] (arith : Arithmetic m)

/-- Whether there is no step after this one. -/
def atEndIn (v : Viewer) : m Bool := do
  return v.steps.size ≤ (← arith.add v.position 1)

/-- The next step, if there is one. -/
def forwardIn (v : Viewer) : m (Option Viewer) := do
  if ← atEndIn arith v then return none
  else return some (v.goTo (← arith.add v.position 1))

/-- The step before, if there is one. -/
def backwardIn (v : Viewer) : m (Option Viewer) := do
  if v.position = 0 then return none
  else return some (v.goTo (← arith.sub v.position 1))

/-- Up to `n` steps forward, and how many there were. -/
def forwardByIn : Nat → Viewer → m (Nat × Viewer)
  | 0, v => return (0, v)
  | n + 1, v => do
    match ← forwardIn arith v with
    | none => return (0, v)
    | some next =>
      let (taken, last) ← forwardByIn n next
      return (← arith.add taken 1, last)

end

/-- There is no step after this one. -/
def isAtEnd (v : Viewer) : Bool :=
  (atEndIn .exact v).run

@[inherit_doc forwardIn]
def forward? (v : Viewer) : Option Viewer :=
  (forwardIn .exact v).run

@[inherit_doc backwardIn]
def backward? (v : Viewer) : Option Viewer :=
  (backwardIn .exact v).run

-- ---------------------------------------------------------------------------
-- Keys
-- ---------------------------------------------------------------------------

/-- The milliseconds within which a second press of the space bar counts as the same. -/
def repeatTime : Nat := 200

/-- The viewer stops playing and says something. -/
def halt (v : Viewer) (message : String) : Viewer :=
  { v with playing := false, message }

/-- Moves if there is a step to move to, and says whether there is. -/
def move (v : Viewer) (target : Option Viewer) (moved stuck : String) : Viewer :=
  match target with
  | some next => next.halt moved
  | none => v.halt stuck

/-- The arrow keys up and down; the current line moves against the direction of scrolling. -/
def scrollUp (v : Viewer) : Viewer :=
  match v.focus with
  | .source => { v with scroll := v.scroll.lower }
  | .frame => { v with frameScroll := v.frameScroll - 1 }

@[inherit_doc scrollUp]
def scrollDown (v : Viewer) : Viewer :=
  match v.focus with
  | .source => { v with scroll := v.scroll.higher }
  | .frame => { v with frameScroll := v.frameScroll + 1 }

/-- Starts or stops playing, unless the space bar was obeyed a moment ago. -/
def toggle (v : Viewer) (now : Nat) : Viewer :=
  if v.lastSpace.any (now - · < repeatTime) then v
  else
    { v with
      lastSpace := some now
      playing := !v.playing
      message := if v.playing then "Paused" else "Playing..." }

/-- The other pane gets the arrow keys. -/
def turn (v : Viewer) : Viewer :=
  match v.focus with
  | .source => { v with focus := .frame }
  | .frame => { v with focus := .source }

section
variable {m : Type → Type} [Monad m] (arith : Arithmetic m)

/-- Up to `n` steps forward, with a count. -/
def skipIn (v : Viewer) (n : Nat) : m Viewer := do
  let (taken, last) ← forwardByIn arith n v
  return last.halt ("Stepped forward " ++ toString taken ++ " step(s)")

/-- What a character does. -/
def pressCharIn (v : Viewer) (now : Nat) (c : Char) : m Viewer := do
  if c = 'q' ∨ c = 'Q' then return { v with quitting := true }
  else if '1' ≤ c ∧ c ≤ '9' then v.skipIn arith (← arith.sub c.toNat '0'.toNat)
  else if c = ' ' then return v.toggle now
  else return v

/-- What a key does at some time. Scrolling and the way to the end stop at the ends of a word. -/
def pressIn (v : Viewer) (now : Nat) : Key → m Viewer
  | .left => return v.move (← backwardIn arith v) "Stepped backward" "Already at the first step"
  | .right => return v.move (← forwardIn arith v) "Stepped forward" "Already at the last step"
  | .up => return v.scrollUp
  | .down => return v.scrollDown
  | .tab => return v.turn
  | .enter => return (v.goTo (v.steps.size - 1)).halt "Jumped to end"
  | .backspace => return (v.goTo 0).halt "Jumped to start"
  | .escape => return { v with quitting := true }
  | .char c => v.pressCharIn arith now c
  | .other => return v

end

/-- What a key does at some time, with numbers of any size. -/
def press (v : Viewer) (now : Nat) (key : Key) : Viewer :=
  (v.pressIn .exact now key).run

end Viewer

end Retrace
