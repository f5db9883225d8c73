import Retrace.Debugger.Message
import Retrace.Trace.Step
import Retrace.Value.Parser

/-!
# Reading step events

The debugger reports a stop as a header line, which a line of source may follow:

    Step completed: "thread=main", IterPower.main(), line=16 bci=0
    16    	    int base = 10;

While method calls are traced the header may announce a method entry or exit
instead. Header and listing make one event.
-/

namespace Retrace.StepEvent

/-- Numbers of lines and instructions fit 32 bits; larger ones are left out. -/
def number? (digits : List Char) : Option Nat :=
  Numeral.natBelow? (twoTo 32) digits

/-- The event in a header line, without the listing. `entered` says that a method entry was
announced before the header. -/
def ofHeader (header : List Char) (entered : Bool) : StepEvent :=
  match Message.stepLocation.find? header with
  | none => {}
  | some m =>
    let text (n : Nat) : Option String := (m.group? n).map String.ofList
    let returned := (m.group? 2).map Value.read
    { kind :=
        if returned.isSome then .methodExit
        else if entered || Text.occursIn Message.methodEnteredMarker.toList header then .methodEntry
        else .step
      returned
      thread := text 3
      label := text 4
      method := (m.group? 5).map fun s => String.ofList (s.dropWhile (· = '.'))
      line := (m.group? 6).bind number?
      bci := (m.group? 7).bind number? }

/-- The event with the first source line in a text. The listing is more exact than the header. -/
def withListing (event : StepEvent) (text : List Char) : StepEvent :=
  match Message.sourceListing.find? text with
  | none => event
  | some m =>
    { event with
      line := ((m.group? 1).bind number?).or event.line
      instruction := (m.group? 2).map String.ofList }

/-- The event in a header and in the listing that follows it; none if an exception is reported. -/
def ofOutput? (header listing : List Char) (entered : Bool) : Option StepEvent :=
  if Text.occursIn Message.exceptionMarker.toList header then none
  else some (((ofHeader header entered).withListing header).withListing listing)

/-- The event in the text that ends a step. -/
def ofHeader? (header : List Char) : Option StepEvent :=
  ofOutput? header [] false

end Retrace.StepEvent
