import Retrace.Text.Utf8

/-!
# Patterns

A pattern describes the texts to look for in what a process writes. Matching is
leftmost first: of all places where the pattern fits the leftmost one counts,
and there the earlier alternative and the longer run are preferred, so that
every pattern picks one text at most.

`Expr.go` tries the ways in which an expression fits in the order of preference
and hands each to the continuation, which says whether the rest fits as well.
-/

namespace Retrace

-- ---------------------------------------------------------------------------
-- Expressions
-- ---------------------------------------------------------------------------

/-- What a piece of text may look like. -/
inductive Expr where
  /-- Exactly this text. -/
  | text (s : List Char)
  /-- One character of a set. -/
  | one (set : Char → Bool)
  /-- A run of characters of a set, which may be empty; longer runs are preferred. -/
  | many (set : Char → Bool)
  /-- One after the other. -/
  | seq (a b : Expr)
  /-- Either; the first is preferred. -/
  | alt (a b : Expr)
  /-- One or more times; more is preferred. -/
  | plus (e : Expr)
  /-- The same, and what it matches is remembered under a number. -/
  | group (n : Nat) (e : Expr)
  /-- The empty text at the start of a line. -/
  | lineStart
  /-- The empty text at the start. -/
  | textStart
  /-- The empty text at the end. -/
  | textEnd

namespace Expr

instance : Append Expr := ⟨seq⟩

/-- Exactly the text of a string. -/
def lit (s : String) : Expr :=
  .text s.toList

/-- A run of at least one character of a set. -/
def many1 (set : Char → Bool) : Expr :=
  .one set ++ .many set

/-- The expression or nothing; the expression is preferred. -/
def opt (e : Expr) : Expr :=
  .alt e (.text [])

/-- Any of the expressions, earlier ones preferred. -/
def firstOf (e : Expr) : List Expr → Expr
  | [] => e
  | next :: rest => .alt e (firstOf next rest)

/-- The largest number of a group. -/
def groupCount : Expr → Nat
  | .seq a b | .alt a b => max a.groupCount b.groupCount
  | .plus e => e.groupCount
  | .group n e => max n e.groupCount
  | _ => 0

end Expr

-- ---------------------------------------------------------------------------
-- Places in a text
-- ---------------------------------------------------------------------------

/-- A place between two characters of a text. -/
structure Cursor where
  /-- How many characters stand before it. -/
  position : Nat
  /-- The character before it, unless the text starts here. -/
  previous : Option Char
  /-- The characters after it. -/
  rest : List Char

namespace Cursor

/-- The start of a text. -/
def start (s : List Char) : Cursor :=
  ⟨0, none, s⟩

/-- The place after the next character. -/
def advance (cur : Cursor) : Option Cursor :=
  match cur.rest with
  | [] => none
  | c :: rest => some ⟨cur.position + 1, some c, rest⟩

/-- The place after a text that stands here. -/
def skip? : List Char → Cursor → Option Cursor
  | [], cur => some cur
  | c :: s, cur =>
    match cur.rest with
    | [] => none
    | d :: rest => if c = d then skip? s ⟨cur.position + 1, some d, rest⟩ else none

/-- The places after the runs of characters of a set, put in front of `found`. -/
def runsFrom (set : Char → Bool) : Nat → Option Char → List Char → List Cursor → List Cursor
  | position, previous, [], found => ⟨position, previous, []⟩ :: found
  | position, previous, c :: rest, found =>
    let found := ⟨position, previous, c :: rest⟩ :: found
    if set c then runsFrom set (position + 1) (some c) rest found else found

/-- The places after the runs of characters of a set that start here, longest first. -/
def runs (set : Char → Bool) (cur : Cursor) : List Cursor :=
  runsFrom set cur.position cur.previous cur.rest []

/-- Whether a line starts here. -/
def atLineStart (cur : Cursor) : Bool :=
  match cur.previous with
  | none => true
  | some c => c = '\n'

end Cursor

-- ---------------------------------------------------------------------------
-- Matching at a place
-- ---------------------------------------------------------------------------

/-- A text remembered under a number: the characters from its first one on, and its length. -/
structure Capture where
  group : Nat
  start : List Char
  length : Nat

/-- What is remembered, latest first. -/
abbrev Captures := List Capture

/-- The text remembered last under a number. -/
def Captures.text? (caps : Captures) (n : Nat) : Option (List Char) :=
  (caps.find? (·.group = n)).map fun c => c.start.take c.length

namespace Expr

/-- Repeats as often as possible, then goes on with `k`. A repetition that moves nowhere is none,
so the length of the text bounds their number. -/
def repeated (body : (Cursor → Captures → Option α) → Cursor → Captures → Option α)
    (k : Cursor → Captures → Option α) : Nat → Cursor → Captures → Option α
  | 0, cur, caps => k cur caps
  | fuel + 1, cur, caps =>
    let again := body (fun cur' caps' =>
      if cur.position < cur'.position then repeated body k fuel cur' caps' else none) cur caps
    match again with
    | some result => some result
    | none => k cur caps

/-- The answer of `k` for the first way in which the expression fits and `k` has an answer. -/
def go : Expr → (Cursor → Captures → Option α) → Cursor → Captures → Option α
  | .text s, k, cur, caps =>
    match cur.skip? s with
    | some cur' => k cur' caps
    | none => none
  | .one set, k, cur, caps =>
    match cur.rest with
    | [] => none
    | c :: rest => if set c then k ⟨cur.position + 1, some c, rest⟩ caps else none
  | .many set, k, cur, caps => (cur.runs set).findSome? fun cur' => k cur' caps
  | .seq a b, k, cur, caps => a.go (b.go k) cur caps
  | .alt a b, k, cur, caps =>
    match a.go k cur caps with
    | some result => some result
    | none => b.go k cur caps
  | .plus e, k, cur, caps => e.go (repeated e.go k cur.rest.length) cur caps
  | .group n e, k, cur, caps =>
    e.go (fun cur' caps' => k cur' (⟨n, cur.rest, cur'.position - cur.position⟩ :: caps')) cur caps
  | .lineStart, k, cur, caps => if cur.atLineStart then k cur caps else none
  | .textStart, k, cur, caps => if cur.previous.isNone then k cur caps else none
  | .textEnd, k, cur, caps => if cur.rest.isEmpty then k cur caps else none

end Expr

end Retrace
