import Retrace.Text.Letter
import Retrace.Viewer.Style

/-!
# Highlighting

A line of Java source is cut into lexemes, and each is shown in the style of what it is. Nothing
is known of the lines around it, so a comment that spans lines is not seen. `lex_flatten` says that
the lexemes are the whole line.
-/

namespace Retrace.Viewer

/-- What a piece of a line is. -/
inductive LexemeKind where
  /-- Letters, digits, `_` and `$`; whether an opening parenthesis follows. -/
  | word (called : Bool)
  /-- From `//` to the end of the line. -/
  | comment
  /-- A string or character literal with its quotes; the closing one may be missing. -/
  | literal
  /-- A single character of any other kind. -/
  | mark
  deriving DecidableEq, Repr

/-- A piece of a line. -/
structure Lexeme where
  kind : LexemeKind
  text : List Char
  deriving DecidableEq, Repr

/-- May stand in a word. -/
def isWordChar (c : Char) : Bool :=
  Text.isAlphanumeric c || c = '_' || c = '$'

/-- What follows an opening quote, up to and with the closing one, and the text after that. A
backslash takes the character after it along. -/
def cutLiteral (quote : Char) : List Char → List Char × List Char
  | [] => ([], [])
  | '\\' :: c :: rest =>
    let (body, after) := cutLiteral quote rest
    ('\\' :: c :: body, after)
  | c :: rest =>
    if c = quote then ([c], rest)
    else
      let (body, after) := cutLiteral quote rest
      (c :: body, after)

theorem cutLiteral_append (quote : Char) (s : List Char) :
    (cutLiteral quote s).1 ++ (cutLiteral quote s).2 = s := by
  fun_induction cutLiteral quote s <;> simp_all

theorem cutLiteral_rest_length_le (quote : Char) (s : List Char) :
    (cutLiteral quote s).2.length ≤ s.length := by
  have h := congrArg List.length (cutLiteral_append quote s)
  simp only [List.length_append] at h
  omega

theorem dropWhile_length_le (p : Char → Bool) (s : List Char) :
    (s.dropWhile p).length ≤ s.length :=
  (List.dropWhile_sublist p).length_le

/-- The lexemes of a line. -/
def lex : List Char → List Lexeme
  | [] => []
  | c :: rest =>
    if isWordChar c then
      let after := rest.dropWhile isWordChar
      ⟨.word (after.head? = some '('), c :: rest.takeWhile isWordChar⟩ :: lex after
    else if c = '/' ∧ rest.head? = some '/' then
      [⟨.comment, c :: rest⟩]
    else if c = '"' ∨ c = '\x27' then
      let literal := cutLiteral c rest
      ⟨.literal, c :: literal.1⟩ :: lex literal.2
    else
      ⟨.mark, [c]⟩ :: lex rest
termination_by s => s.length
decreasing_by
  · have := dropWhile_length_le isWordChar rest
    simp only [List.length_cons]
    omega
  · have := cutLiteral_rest_length_le c rest
    simp only [List.length_cons]
    omega
  · simp

/-- The lexemes of a line are the whole line. -/
theorem lex_flatten (s : List Char) : ((lex s).map (·.text)).flatten = s := by
  fun_induction lex s with
  | case1 => rfl
  | case2 c rest _ after ih =>
    simp only [List.map_cons, List.flatten_cons, ih, List.cons_append]
    exact congrArg (c :: ·) List.takeWhile_append_dropWhile
  | case3 => simp
  | case4 c rest _ _ _ literal ih =>
    simp only [List.map_cons, List.flatten_cons, ih, List.cons_append]
    exact congrArg (c :: ·) (cutLiteral_append c rest)
  | case5 c rest _ _ _ ih => simp [ih]

-- ---------------------------------------------------------------------------
-- Styles
-- ---------------------------------------------------------------------------

/-- Primitive types, and the classes that are met as often. -/
def typeWords : List String :=
  ["boolean", "byte", "char", "double", "float", "int", "long", "short", "void", "String",
   "Object", "Integer"]

def keywords : List String :=
  ["abstract", "assert", "break", "case", "catch", "class", "continue", "default", "do", "else",
   "enum", "extends", "final", "finally", "for", "if", "implements", "import", "instanceof",
   "interface", "new", "package", "private", "protected", "public", "return", "static", "super",
   "switch", "synchronized", "this", "throw", "throws", "try", "var", "while", "yield"]

def constantWords : List String :=
  ["null", "true", "false"]

def brackets : List Char :=
  ['{', '}', '(', ')', '[', ']']

/-- The style of a word: of a type, a keyword, a constant or number, a call, or a name. -/
def wordStyle (called : Bool) (word : List Char) : Style :=
  let name := String.ofList word
  if name ∈ typeWords then .plain Palette.teal
  else if name ∈ keywords then .strong Palette.blue
  else if name ∈ constantWords ∨ (word.head?.map Char.isDigit).getD false then
    .plain Palette.orange
  else if called then .plain Palette.yellow
  else .plain Palette.ink

namespace Lexeme

def style (lexeme : Lexeme) : Style :=
  match lexeme.kind with
  | .word called => wordStyle called lexeme.text
  | .comment => .plain Palette.grey
  | .literal => .plain Palette.green
  | .mark =>
    if lexeme.text.all brackets.contains then .plain Palette.blue else .plain Palette.ink

def span (lexeme : Lexeme) : Span :=
  ⟨String.ofList lexeme.text, lexeme.style⟩

end Lexeme

/-- A line of source in the styles of its lexemes. -/
def highlight (line : List Char) : StyledLine :=
  (lex line).map Lexeme.span

end Retrace.Viewer
