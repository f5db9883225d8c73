import Retrace.Text.CellWidth.Emoji
import Retrace.Text.CellWidth.Ligature

/-!
# Width in cells

How many cells of a terminal a text takes. The room of a character may hang on the text after it: a
letter may begin a ligature, an emoji a longer emoji, and a variation selector decides between the
forms of the character before it. So a text is measured from its end.
-/

namespace Retrace.Text

/-- What a text may be the end of, given what stands before it. -/
inductive SequenceEnd where
  | plain
  | ligature (rest : LigatureEnd)
  | emoji (rest : EmojiEnd)
  deriving DecidableEq, Repr

namespace SequenceEnd

/-- What a character may be the end of by itself. -/
def ofChar (c : Char) : SequenceEnd :=
  match LigatureEnd.ofChar? c, EmojiEnd.ofChar? c with
  | some rest, _ => .ligature rest
  | none, some rest => .emoji rest
  | none, none => .plain

/-- A joiner and an emoji, the keycap between them or not. -/
def isJoined : SequenceEnd → Bool
  | .emoji .joined | .emoji .joinedKeycap => true
  | _ => false

/-- What goes on across a variation selector: a ligature, but no emoji. -/
def letters : SequenceEnd → SequenceEnd
  | .ligature rest => .ligature rest
  | _ => .plain

/-- What goes on across a variation selector that asks for colour: a joiner and an emoji as well. -/
def selected (sequence : SequenceEnd) : SequenceEnd :=
  if sequence.isJoined then sequence else sequence.letters

end SequenceEnd

/-- The form of an emoji that a variation selector asks for. -/
inductive EmojiForm where
  | text
  | colour
  deriving DecidableEq, Repr

/-- What matters of the text behind a character. -/
structure Ahead where
  /-- What the text may be the end of. -/
  sequence : SequenceEnd := .plain
  /-- The variation selector that the text starts with. -/
  form : Option EmojiForm := none
  deriving DecidableEq, Repr

/-- What a character adds to the room of the text behind it where no variation selector is
involved. -/
def addedPlainly (c : Char) (sequence : SequenceEnd) : Int × Ahead :=
  let alone : Int × Ahead :=
    match SequenceEnd.ofChar c with
    | .emoji .flagLetter => (1, { sequence := .emoji .flagLetter })
    | .emoji rest => (2, { sequence := .emoji rest })
    | own => (singleWidth c, { sequence := own })
  match sequence with
  | .plain => alone
  | .ligature rest =>
    match rest.before? c with
    | some (room, some rest) => (room, { sequence := .ligature rest })
    | some (room, none) => (room, {})
    | none => alone
  | .emoji rest =>
    match rest.before? c with
    | some (room, rest) => (room, { sequence := .emoji rest })
    | none => alone

/-- What a character adds to the room of the text behind it, and what matters of both then. -/
def added (c : Char) (ahead : Ahead) : Int × Ahead :=
  if ahead.form = some .colour ∧ hasTwoForms c then
    (if ahead.sequence.isJoined then 0 else 2, { sequence := .emoji .emoji })
  else
    let sequence := if ahead.form = some .colour then ahead.sequence.letters else ahead.sequence
    if c = '\uFE0F' then (0, { sequence := sequence.selected, form := some .colour })
    else if c = '\uFE0E' then (0, { sequence := sequence.letters, form := some .text })
    else if ahead.form = some .text ∧ narrowsAsText c then (1, {})
    else addedPlainly c sequence

/-- The room of a text, and what matters of it for the character before it. -/
def measured (s : List Char) : Int × Ahead :=
  s.foldr
    (fun c (room, ahead) =>
      let (more, ahead) := added c ahead
      (more + room, ahead))
    (0, {})

/-- The cells that a text takes. -/
def cellWidth (s : List Char) : Nat :=
  (measured s).1.toNat

end Retrace.Text
