import Retrace.Pattern.Basic

/-!
# Searching

A pattern is an expression together with its written form. `Pattern.find?` gives
the leftmost match in a text, `Pattern.findAll` all matches one after another.
-/

namespace Retrace

/-- What is looked for: the expression that is matched, and the form in which messages show it. -/
structure Pattern where
  source : String
  expr : Expr

/-- A piece of a text that a pattern picks. -/
structure Match where
  /-- How many characters of the text stand before it. -/
  start : Nat
  /-- The piece. -/
  text : List Char
  /-- The place after it. -/
  stop : Cursor
  captures : Captures

namespace Match

/-- The text after the match. -/
def rest (m : Match) : List Char :=
  m.stop.rest

/-- What the group of a number matched, if it took part. -/
def group? (m : Match) (n : Nat) : Option (List Char) :=
  m.captures.text? n

end Match

namespace Expr

/-- The match at a place. -/
def matchAt? (e : Expr) (cur : Cursor) : Option Match :=
  e.go (fun stop caps =>
    some ⟨cur.position, cur.rest.take (stop.position - cur.position), stop, caps⟩) cur []

/-- The leftmost match from a place on. -/
def searchFrom (e : Expr) : Nat → Option Char → List Char → Option Match
  | position, previous, [] => e.matchAt? ⟨position, previous, []⟩
  | position, previous, c :: rest =>
    match e.matchAt? ⟨position, previous, c :: rest⟩ with
    | some m => some m
    | none => searchFrom e (position + 1) (some c) rest

/-- The leftmost match from a place on. -/
def search (e : Expr) (cur : Cursor) : Option Match :=
  e.searchFrom cur.position cur.previous cur.rest

/-- The matches from a place on. An empty match is skipped where the match before it ended, so
each round passes a character or finds a match that is not empty. -/
def matchesFrom (e : Expr) : Nat → Cursor → Option Nat → List Match
  | 0, _, _ => []
  | fuel + 1, cur, lastEnd =>
    match e.search cur with
    | none => []
    | some m =>
      if m.text.isEmpty && lastEnd = some m.start then
        match m.stop.advance with
        | none => []
        | some next => matchesFrom e fuel next lastEnd
      else
        m :: matchesFrom e fuel m.stop (some m.stop.position)

end Expr

namespace Pattern

/-- The leftmost match. -/
def find? (p : Pattern) (s : List Char) : Option Match :=
  p.expr.search (.start s)

/-- Whether the pattern fits anywhere. -/
def isMatch (p : Pattern) (s : List Char) : Bool :=
  (p.find? s).isSome

/-- All matches that do not overlap, from left to right. -/
def findAll (p : Pattern) (s : List Char) : List Match :=
  p.expr.matchesFrom (2 * s.length + 2) (.start s) none

end Pattern

end Retrace
