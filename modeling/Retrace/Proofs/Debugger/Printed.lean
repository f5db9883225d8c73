import Retrace.Debugger.Message
import Retrace.Text.Lines
import Retrace.Trace.StepParser

/-!
# What the debugger prints

Variables, frames and stops as the debugger prints them, with the texts that it
prints and with what these are to be read as. What cannot be printed is ruled out
by the types: a name is one word, and a value, a source line or a value returned
is on one line.
-/

namespace Retrace.Printed

-- ---------------------------------------------------------------------------
-- Tests
-- ---------------------------------------------------------------------------

variable {p : Char → Prop} [DecidablePred p]

/-- Whether all characters of a text pass a test is found out by going through the text, not
through all characters that there are. -/
instance decidableForallMem (s : List Char) : Decidable (∀ c ∈ s, p c) :=
  s.decidableBAll p

instance decidableForallSome (o : Option Char) : Decidable (∀ c, o = some c → p c) :=
  match o with
  | none => isTrue nofun
  | some c => decidable_of_iff (p c) (by simp)

-- ---------------------------------------------------------------------------
-- Variables
-- ---------------------------------------------------------------------------

/-- A variable with its value. -/
structure Binding where
  name : String
  value : String
  name_ne : name ≠ "" := by decide
  name_word : ∀ c ∈ name.toList, Message.inThread c = true := by decide
  value_line : '\n' ∉ value.toList := by decide
  value_trimmed : Text.trim value.toList = value.toList := by decide

namespace Binding

/-- The line without its ending. -/
def line (b : Binding) : List Char :=
  b.name.toList ++ " = ".toList ++ b.value.toList

/-- The variable that the line stands for. -/
def entry (b : Binding) : String × Value :=
  (b.name, .parse b.value)

end Binding

/-- The lines of variables, with their endings. -/
def listing (bindings : List Binding) : List Char :=
  bindings.flatMap fun b => b.line ++ "\r\n".toList

/-- The variables that a list of bindings stands for; of two for one name the later one counts. -/
def scope (bindings : List Binding) : Variables :=
  .ofList (bindings.map Binding.entry)

/-- The prompt of the thread that is suspended. -/
def prompt : List Char :=
  "main[1] ".toList

/-- The variables of a frame. -/
structure Frame where
  arguments : List Binding
  locals : List Binding

namespace Frame

/-- The answer to a request for the variables. -/
def text (f : Frame) : List Char :=
  Message.methodArgumentsHeader.toList ++ ("\r\n".toList ++ listing f.arguments) ++
    ("Local variables:".toList ++ ("\r\n".toList ++ listing f.locals ++ prompt))

/-- The frame that the text stands for. -/
def frame (f : Frame) : Retrace.Frame where
  arguments := scope f.arguments
  locals := scope f.locals

end Frame

-- ---------------------------------------------------------------------------
-- Stops
-- ---------------------------------------------------------------------------

/-- What a header starts with. -/
inductive Title where
  | completed
  /-- A method entry that is announced on the line before. -/
  | enteredBefore (blank : Bool)
  | entered
  | exited (value : String) (nonempty : value ≠ "")
    (line : ∀ c ∈ value.toList, Message.inLine c = true)

namespace Title

/-- The line before a title that stands on the second line. -/
def front : Title → List Char
  | enteredBefore blank =>
    "Method entered:".toList ++ ((if blank then " ".toList else []) ++ "\r\n".toList)
  | _ => []

/-- The title itself. -/
def head : Title → List Char
  | completed | enteredBefore _ => "Step completed:".toList
  | entered => "Method entered:".toList
  | exited value _ _ => "Method exited: return value = ".toList ++ (value.toList ++ ",".toList)

@[simp] theorem head_exited (value : String) (nonempty : value ≠ "")
    (line : ∀ c ∈ value.toList, Message.inLine c = true) :
    (exited value nonempty line).head =
      "Method exited: return value = ".toList ++ (value.toList ++ ",".toList) :=
  rfl

def kind : Title → StepKind
  | completed => .step
  | enteredBefore _ | entered => .methodEntry
  | exited .. => .methodExit

/-- The value that is returned, as it is printed. -/
def returned? : Title → Option String
  | exited value _ _ => some value
  | _ => none

end Title

/-- Where and why the program stopped. -/
structure Stop where
  title : Title
  thread : String
  className : String
  method : String
  line : UInt32
  bci : UInt32
  /-- The number of the source line in the listing, which is more exact than the header. -/
  listed : UInt32
  /-- What stands between the number of the source line and its text. -/
  gap : String
  source : String
  thread_free : ∀ c ∈ thread.toList, Message.but ['"', '\r', '\n'] c = true := by decide
  class_free : ∀ c ∈ className.toList, Message.but ['(', '"', '\r', '\n'] c = true := by decide
  class_pieces : ∀ piece ∈ Text.splitOn '.' className.toList, piece ≠ [] := by decide
  method_ne : method ≠ "" := by decide
  method_free : ∀ c ∈ method.toList, Message.but ['.', '(', '"', '\r', '\n'] c = true := by decide
  gap_ne : gap ≠ "" := by decide
  gap_blank : ∀ c ∈ gap.toList, Message.blankOrTab c = true := by decide
  source_ne : source ≠ "" := by decide
  source_line : ∀ c ∈ source.toList, Message.inLine c = true := by decide
  source_start : ∀ c, source.toList.head? = some c → Message.blankOrTab c = false := by decide

namespace Stop

/-- Class and method, with parentheses. -/
def label (s : Stop) : String :=
  s.className ++ "." ++ s.method ++ "()"

/-- The digits of a number. -/
def digits (n : UInt32) : List Char :=
  (toString n.toNat).toList

/-- The header, which may take two lines. -/
def header (s : Stop) : List Char :=
  s.title.front ++ (s.title.head ++ (" \"thread=".toList ++ (s.thread.toList ++ ("\", ".toList ++
    (s.label.toList ++ (", line=".toList ++ (digits s.line ++ (" bci=".toList ++
      (digits s.bci ++ "\r\n".toList)))))))))

/-- The source line without its ending. -/
def sourceLine (s : Stop) : List Char :=
  digits s.listed ++ (s.gap.toList ++ s.source.toList)

/-- The answer to a step. -/
def text (s : Stop) : List Char :=
  "> \r\n".toList ++ (s.header ++ (s.sourceLine ++ ("\r\n\r\n".toList ++ prompt)))

/-- The event that the text stands for. -/
def event (s : Stop) : StepEvent where
  kind := s.title.kind
  thread := some s.thread
  label := some s.label
  method := some s.method
  line := some s.listed.toNat
  bci := some s.bci.toNat
  instruction := some s.source
  returned := s.title.returned?.map Value.parse

end Stop

end Retrace.Printed
