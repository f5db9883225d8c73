import Retrace.Text.Visible

/-!
# Quoted text

Text in messages about what a debugger printed stands between double quotes.
What cannot be seen, and what would change the character before it, is written
as an escape, so the message shows exactly which characters there are.
-/

namespace Retrace.Text

/-- The digits of a number in base sixteen, in lower case and without leading zeros. -/
def hexDigits (n : Nat) : List Char :=
  Nat.toDigits 16 n

/-- How a character is written between double quotes. -/
def quotedChar (c : Char) : List Char :=
  match c with
  | '"' => ['\\', '"']
  | '\\' => ['\\', '\\']
  | '\n' => ['\\', 'n']
  | '\r' => ['\\', 'r']
  | '\t' => ['\\', 't']
  | '\x00' => ['\\', '0']
  | c =>
    if isVisible c && (!isExtending c || isSoundMark c) then [c]
    else ['\\', 'u', '{'] ++ hexDigits c.toNat ++ ['}']

/-- A text between double quotes. -/
def quoted (s : String) : String :=
  String.ofList ('"' :: s.toList.flatMap quotedChar ++ ['"'])

end Retrace.Text
