import Retrace.Pattern.Search
import Retrace.Text.Utf8

/-!
# Output that is waiting

What a process wrote and nobody has taken yet. A match takes everything up to
its end. Bytes that begin a character wait until the rest of it arrives.
-/

namespace Retrace

/-- The text around a match. -/
structure Expectation where
  /-- The output before the match. -/
  before : String
  /-- The matched text. -/
  matched : String
  deriving DecidableEq, Repr, Inhabited

/-- Output that was received and not taken. -/
structure Buffer where
  pending : List Char := []
  /-- The first bytes of a character whose other bytes are missing. -/
  unfinished : List UInt8 := []
  deriving DecidableEq, Repr, Inhabited

namespace Buffer

/-- Appends text. -/
def feed (b : Buffer) (text : String) : Buffer :=
  { b with pending := b.pending ++ text.toList }

/-- Appends bytes, together with those that wait. If they cannot all be read, what can never
become a character is replaced, and with it also a character that has only begun. -/
def feedBytes (b : Buffer) (bytes : List UInt8) : Buffer :=
  let bytes := b.unfinished ++ bytes
  match Text.Utf8.readable bytes with
  | (chars, .complete) => ⟨b.pending ++ chars, []⟩
  | (chars, .unfinished tail) => ⟨b.pending ++ chars, tail⟩
  | (_, .broken) => ⟨b.pending ++ Text.Utf8.decodeLossy bytes, []⟩

/-- Takes everything up to the end of the first match. -/
def take? (b : Buffer) (p : Pattern) : Option (Expectation × Buffer) :=
  (p.find? b.pending).map fun m =>
    (⟨String.ofList (b.pending.take m.start), String.ofList m.text⟩,
      { b with pending := m.rest })

/-- Nothing waits, not even a part of a character. -/
def isEmpty (b : Buffer) : Bool :=
  b.pending.isEmpty && b.unfinished.isEmpty

end Buffer

end Retrace
