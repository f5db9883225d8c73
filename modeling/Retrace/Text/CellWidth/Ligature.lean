import Retrace.Text.CellWidth.Single

/-!
# Ligatures

Some scripts write two or three letters in the room of one. A ligature is read from its end: its
last letter waits for the ones before it, and marks that are ignored may stand between them, as may
joiners everywhere but in Arabic.
-/

namespace Retrace.Text

/-- The code points of the characters that take no room and yet part the Arabic letters around
them. -/
def cursiveBreakRanges : CodeRanges := [
  (0x605, 0x605), (0x890, 0x891), (0x8E2, 0x8E2), (0x9BE, 0x9BE), (0x9D7, 0x9D7), (0xB3E, 0xB3E),
  (0xB57, 0xB57), (0xBBE, 0xBBE), (0xBD7, 0xBD7), (0xCC0, 0xCC0), (0xCC2, 0xCC2), (0xCC7, 0xCC8),
  (0xCCA, 0xCCB), (0xCD5, 0xCD6), (0xD3E, 0xD3E), (0xD4E, 0xD4E), (0xD57, 0xD57), (0xDCF, 0xDCF),
  (0xDDF, 0xDDF), (0x1160, 0x11FF), (0x180E, 0x180E), (0x1B35, 0x1B35), (0x1B3B, 0x1B3B),
  (0x1B3D, 0x1B3D), (0x1B43, 0x1B43), (0x200C, 0x200D), (0x2065, 0x2069), (0x302E, 0x302F),
  (0x3164, 0x3164), (0xA8FA, 0xA8FA), (0xD7B0, 0xD7C6), (0xD7CB, 0xD7FB), (0xFF9E, 0xFFA0),
  (0xFFF0, 0xFFF8), (0x111C2, 0x111C3), (0x1133E, 0x1133E), (0x11357, 0x11357), (0x114B0, 0x114B0),
  (0x114BD, 0x114BD), (0x115AF, 0x115AF), (0x11930, 0x11930), (0x1193F, 0x1193F),
  (0x11941, 0x11941), (0x11A3A, 0x11A3A), (0x11A84, 0x11A89), (0x11D46, 0x11D46),
  (0x11F02, 0x11F02), (0x1D165, 0x1D165), (0x1D16E, 0x1D172), (0xE0000, 0xE0000),
  (0xE0002, 0xE001F), (0xE0080, 0xE00FF), (0xE01F0, 0xE0FFF)]

/-- The code points of the marks that are ignored when they cannot be shown. -/
def ignorableMarkRanges : CodeRanges := [
  (0x34F, 0x34F), (0x17B4, 0x17B5), (0x180B, 0x180D), (0x180F, 0x180F), (0xFE00, 0xFE0F),
  (0xE0100, 0xE01EF)]

/-- The code points of the Arabic letters that are written as lam is. -/
def lamRanges : CodeRanges := [
  (0x644, 0x644), (0x6B5, 0x6B8), (0x76A, 0x76A), (0x8A6, 0x8A6), (0x8C7, 0x8C7)]

/-- The code points of the Arabic letters that are written as alef is. -/
def alefRanges : CodeRanges := [
  (0x622, 0x623), (0x625, 0x625), (0x627, 0x627), (0x671, 0x673), (0x675, 0x675), (0x773, 0x774),
  (0x870, 0x882)]

/-- The code points of the Khmer letters that have a form below another letter. -/
def subscriptRanges : CodeRanges := [
  (0x1780, 0x1782), (0x1784, 0x1787), (0x1789, 0x178C), (0x178E, 0x1793), (0x1795, 0x1798),
  (0x179B, 0x179D), (0x17A0, 0x17A0), (0x17A2, 0x17A2), (0x17A7, 0x17A7), (0x17AB, 0x17AC),
  (0x17AF, 0x17AF)]

/-- A consonant of Tifinagh. -/
def isTifinaghConsonant (c : Char) : Bool :=
  0x2D31 ≤ c.toNat && c.toNat ≤ 0x2D65 || c = '\u2D6F'

/-- The end of a ligature, named for the letters it has; what stands before it is not known yet. -/
inductive Ligature where
  | alef
  | lamed
  | buginese
  | bugineseWithVowel
  | tifinagh
  | tifinaghWithJoiner
  | lisuTone
  | turkic
  | khmer
  deriving DecidableEq, Repr

/-- The end of a ligature, and whether a joiner stands in it. -/
structure LigatureEnd where
  letters : Ligature
  joined : Bool := false
  deriving DecidableEq, Repr

namespace LigatureEnd

/-- The ligature that a character may end. -/
def ofChar? (c : Char) : Option LigatureEnd :=
  if alefRanges.contains c.toNat then some { letters := .alef }
  else if c = '\u05DC' then some { letters := .lamed }
  else if c = '\u1A10' then some { letters := .buginese }
  else if isTifinaghConsonant c then some { letters := .tifinagh }
  else if c = '\uA4FC' ∨ c = '\uA4FD' then some { letters := .lisuTone }
  else if c.toNat = 0x10C03 then some { letters := .turkic }
  else if subscriptRanges.contains c.toNat then some { letters := .khmer }
  else none

/-- A character that may stand between the letters of the ligature. -/
def skips (e : LigatureEnd) (c : Char) : Bool :=
  match e.letters with
  | .alef => isZeroWidth c && !cursiveBreakRanges.contains c.toNat
  | _ => c = '\u200D' || ignorableMarkRanges.contains c.toNat

/-- What a character before the end of a ligature adds to its room, and what it then waits for; a
character that does not belong to it is not answered. -/
def before? (e : LigatureEnd) (c : Char) : Option (Int × Option LigatureEnd) :=
  if e.skips c then some (0, some { e with joined := e.joined || c = '\u200D' })
  else
    match e.letters with
    | .alef => if lamRanges.contains c.toNat then some (0, none) else none
    | .lamed => if e.joined ∧ c = '\u05D0' then some (0, none) else none
    | .buginese =>
      if e.joined ∧ c = '\u1A17' then some (0, some { e with letters := .bugineseWithVowel })
      else none
    | .bugineseWithVowel => if c = '\u1A15' then some (0, none) else none
    | .tifinagh =>
      if c = '\u2D7F' then some (1, some { e with letters := .tifinaghWithJoiner })
      else if e.joined ∧ isTifinaghConsonant c then some (0, none)
      else none
    | .tifinaghWithJoiner => if isTifinaghConsonant c then some (-1, none) else none
    | .lisuTone => if 0xA4F8 ≤ c.toNat ∧ c.toNat ≤ 0xA4FB then some (0, none) else none
    | .turkic => if e.joined ∧ c.toNat = 0x10C32 then some (0, none) else none
    | .khmer => if c = '\u17D2' then some (-1, none) else none

end LigatureEnd

end Retrace.Text
