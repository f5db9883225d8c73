import Retrace.Proofs.Debugger.Frame
import Retrace.Proofs.Session.Handshake
import Retrace.Proofs.Session.Stepping
import Retrace.Proofs.Session.Variables

/-!
# Opening a session

What the debugger prints during the handshake, for any class and entry method
whose names have no blank. The patterns of the handshake find their texts in it,
and after the handshake no output is left.
-/

namespace Retrace.Printed

open Message

-- ---------------------------------------------------------------------------
-- The answers
-- ---------------------------------------------------------------------------

/-- The variables at the start of the entry method. -/
def firstFrame : Frame where
  arguments := [{ name := "args", value := "instance of java.lang.String[0] (id=422)" }]
  locals := []

/-- What the debugger prints before the first command. -/
def banner : String :=
  "Initializing jdb ...\r\n> "

/-- The answer to the command that sets the breakpoint. -/
def breakpointAnswer (place : String) : String :=
  "Deferring breakpoint " ++ place ++ ".\r\nIt will be set after the class is loaded.\r\n> "

/-- The answer to the command that runs the class, up to the stop at its entry method. -/
def runAnswer (className place : String) : String :=
  "run " ++ className ++ "\r\nSet uncaught java.lang.Throwable\r\n" ++
    "Set deferred uncaught java.lang.Throwable\r\n> \r\nVM Started: Set deferred breakpoint " ++
    place ++ "\r\n\r\nBreakpoint hit: \"thread=main\", " ++ place ++
    "(), line=3 bci=0\r\n3    \t\tint i = 0;\r\n\r\nmain[1] "

/-- The script for the handshake of a session. -/
def opening {C L : Type} (s : Session C L) : List Reply :=
  let place := s.className ++ "." ++ s.entryMethod
  [ ⟨s.breakpointCommand, breakpointAnswer place, false⟩,
    ⟨"run", runAnswer s.className place, false⟩,
    ⟨s.excludeCommand, .ofList prompt, false⟩,
    ⟨"trace methods 1", .ofList prompt, false⟩,
    ⟨"locals", .ofList firstFrame.text, false⟩ ]

/-- A debugger that answers the handshake of a session, and then the commands of a script. -/
def rehearsed {C L : Type} (s : Session C L) (script : List Reply) : Scripted where
  buffer := { pending := banner.toList }
  script := opening s ++ script

-- ---------------------------------------------------------------------------
-- No answer to a request for variables
-- ---------------------------------------------------------------------------

/-- A text before a blank, of which the last two characters tell that no phrase ends there whose
next word starts an answer with variables. -/
def wellEnded (u : List Char) : Bool :=
  match u.reverse with
  | c :: d :: _ => (d, c) ∉ [('N', 'o'), ('a', 'l'), ('o', 'd')]
  | _ => false

/-- All blanks of a text stand after such texts. -/
def Tidy (front s : List Char) : Prop :=
  ∀ u v, s = u ++ ' ' :: v → ∀ w ∈ ["No".toList, "ocal".toList, "Method".toList], ¬ w <:+ front ++ u

theorem Tidy.append {front s t : List Char} (hs : Tidy front s) (ht : Tidy (front ++ s) t) :
    Tidy front (s ++ t) := by
  intro u v cut
  rcases List.append_eq_append_iff.1 cut with ⟨x, rfl, hx⟩ | ⟨x, rfl, hx⟩
  · rw [← List.append_assoc]
    exact ht x v hx
  · cases x with
    | nil =>
      have := ht [] v (by simpa using hx.symm)
      simpa using this
    | cons d x =>
      obtain ⟨rfl, rfl⟩ := List.cons.inj hx
      exact hs u x rfl

theorem Tidy.of_append {s t : List Char} (h : Tidy [] (s ++ t)) : Tidy [] t := by
  intro u v cut w hw within
  refine h (s ++ u) v (by simp [cut]) w hw ?_
  exact within.trans ⟨s, by simp⟩

theorem tidy_of_notMem {name : List Char} (h : ' ' ∉ name) (front : List Char) : Tidy front name :=
  fun u v cut => by simp [cut] at h

theorem not_suffix_of_wellEnded {u w : List Char} (h : wellEnded u = true) (front : List Char)
    (hw : w ∈ ["No".toList, "ocal".toList, "Method".toList]) : ¬ w <:+ front ++ u := by
  intro within
  unfold wellEnded at h
  split at h
  · next c d t reversed =>
    have ending : (front ++ u).reverse = c :: d :: (t ++ front.reverse) := by simp [reversed]
    rw [← List.reverse_prefix, ending] at within
    simp only [List.mem_cons, List.not_mem_nil, or_false] at hw
    rcases hw with rfl | rfl | rfl <;> simp at within h <;> grind
  · simp at h

/-- Fixed texts are checked blank by blank. -/
def blanksWellEnded (s : List Char) : Bool :=
  (List.range s.length).all fun n => s[n]? != some ' ' || wellEnded (s.take n)

theorem tidy_of_blanksWellEnded {s : List Char} (h : blanksWellEnded s = true) (front : List Char) :
    Tidy front s := by
  rintro u v rfl w hw
  have here := List.all_eq_true.1 h u.length (by simp)
  simp only [List.getElem?_append_right (Nat.le_refl _), Nat.sub_self, List.getElem?_cons_zero,
    bne_self_eq_false, Bool.false_or, List.take_left'] at here
  exact not_suffix_of_wellEnded here front hw

/-- There is no answer with variables in a tidy text. -/
theorem find?_localsAnswer_of_tidy {s : List Char} (h : Tidy [] s) :
    localsAnswer.find? s = none := by
  rw [Expr.find?_eq_none_iff_covers rfl]
  intro a w b cut covered
  have phrase (x y front rest : List Char) (hw : w = front ++ (x ++ ' ' :: y) ++ rest)
      (hx : x ∈ ["No".toList, "ocal".toList, "Method".toList]) : False :=
    h (a ++ front ++ x) (y ++ rest ++ b) (by simp [cut, hw]) x hx
      ⟨a ++ front, by simp⟩
  rcases localsAnswer_covers.1 covered with ⟨v, rfl, -⟩ | ⟨u, v, rfl, -⟩ | rfl
  · exact phrase "No".toList "local variables".toList [] v (by simp) (by simp)
  · have cut : unavailable = "ocal".toList ++ ' ' :: "variable information not available".toList := by
      decide
    exact phrase "ocal".toList "variable information not available".toList u v (by rw [← cut])
      (by simp)
  · exact phrase "Method".toList "arguments:".toList [] [] (by decide) (by simp)

theorem breakpointAnswer_toList (place : String) :
    (breakpointAnswer place).toList = "Deferring breakpoint ".toList ++ place.toList ++
      ".\r\nIt will be set after the class is loaded.\r\n> ".toList := by
  rw [← String.toList_append, ← String.toList_append]
  rfl

theorem runAnswer_toList (className place : String) :
    (runAnswer className place).toList = "run ".toList ++ className.toList ++
      "\r\nSet uncaught java.lang.Throwable\r\n".toList ++
      "Set deferred uncaught java.lang.Throwable\r\n> \r\nVM Started: Set deferred breakpoint ".toList ++
      place.toList ++ "\r\n\r\nBreakpoint hit: \"thread=main\", ".toList ++ place.toList ++
      "(), line=3 bci=0\r\n3    \t\tint i = 0;\r\n\r\nmain[1] ".toList := by
  simp only [← String.toList_append]
  rfl

theorem tidy_breakpointAnswer {place : String} (word : ' ' ∉ place.toList) (front : List Char) :
    Tidy front (breakpointAnswer place).toList := by
  rw [breakpointAnswer_toList]
  refine ((tidy_of_blanksWellEnded ?_ _).append (tidy_of_notMem word _)).append
    (tidy_of_blanksWellEnded ?_ _) <;> decide +kernel

theorem tidy_runAnswer {className place : String} (class_word : ' ' ∉ className.toList)
    (place_word : ' ' ∉ place.toList) (front : List Char) :
    Tidy front (runAnswer className place).toList := by
  rw [runAnswer_toList]
  have name := tidy_of_notMem class_word
  have place := tidy_of_notMem place_word
  refine (((((((tidy_of_blanksWellEnded ?_ _).append (name _)).append
    (tidy_of_blanksWellEnded ?_ _)).append (tidy_of_blanksWellEnded ?_ _)).append (place _)).append
    (tidy_of_blanksWellEnded ?_ _)).append (place _)).append (tidy_of_blanksWellEnded ?_ _) <;>
    decide +kernel

theorem infix_breakpointSet (place : String) :
    "Deferring breakpoint".toList <:+: (breakpointAnswer place).toList := by
  have within : "Deferring breakpoint".toList <+: "Deferring breakpoint ".toList := by
    decide +kernel
  rw [breakpointAnswer_toList, List.append_assoc]
  exact (within.trans (List.prefix_append ..)).isInfix

theorem infix_breakpointHit (className place : String) :
    "Breakpoint hit:".toList <:+: (runAnswer className place).toList := by
  have within : "Breakpoint hit:".toList <:+: "\r\n\r\nBreakpoint hit: \"thread=main\", ".toList := by
    decide +kernel
  rw [runAnswer_toList, List.append_assoc, List.append_assoc]
  exact within.trans (List.infix_append' _ _ _)

end Retrace.Printed

namespace Retrace.Session

open Printed Message

variable {L : Type} {c : Scripted} {pending : List Char} {script : List Reply}

theorem exists_told (s : Session Scripted L) {reply : Reply}
    (h : c.Waits pending (reply :: script)) (stays : reply.exits = false) :
    ∃ c', send reply.command (s.withChannel c) = .ok () (s.withChannel c') ∧
      c'.Waits (pending ++ reply.output.toList) script :=
  ⟨_, send_eq_ok_iff.2 ⟨h.live, h.accepts, rfl⟩, h.told stays _⟩

/-- Output with a piece that a plain expression covers has a match, and a part of it is left. -/
theorem exists_expected (s : Session Scripted L) {p : Pattern} (plain : p.expr.isPlain = true)
    (h : c.Waits pending script) {w : List Char} (within : w <:+: pending)
    (covers : ∀ previous, p.expr.Covers previous w) :
    ∃ found c' taken rest, expect p (s.withChannel c) = .ok found (s.withChannel c') ∧
      c'.Waits rest script ∧ pending = taken ++ rest := by
  cases hb : c.buffer.take? p with
  | some r =>
    refine ⟨r.1, _, r.1.before.toList ++ r.1.matched.toList, _,
      expect_eq_ok_iff.2 ⟨r.2, hb, rfl⟩, h.leaving r.2, ?_⟩
    rw [← h.pending_eq]
    exact Buffer.text_of_take? hb
  | none =>
    obtain ⟨a, t, cut⟩ := within
    have absent := (Expr.find?_eq_none_iff_covers plain).1 (Buffer.take?_eq_none_iff.1 hb)
    exact absurd (covers _) (absent a w t (h.pending_eq.trans cut.symm))

/-- A printed frame is read, and then nothing waits. -/
theorem exists_locals (s : Session Scripted L) {f : Printed.Frame}
    (h : c.Waits pending (⟨"locals", .ofList f.text, false⟩ :: script))
    (quiet : localsAnswer.find? pending = none) (divided : f.Divided) :
    ∃ c', locals (s.withChannel c) = .ok (some f.frame) (s.withChannel c') ∧ c'.Waits [] script := by
  rw [← f.text_answer] at h
  obtain ⟨c', read, -, waits⟩ := exists_frame (s := s) h quiet isPrompt_prompt divided.answer
  rw [f.frame_answer] at read
  exact ⟨c', read, waits rfl⟩

theorem divided_firstFrame : firstFrame.Divided := by
  decide +kernel

/-- The debugger is prepared, and then nothing of its output waits. -/
theorem prepare_rehearsed (s : Session Scripted L) (class_word : ' ' ∉ s.className.toList)
    (entry_word : ' ' ∉ s.entryMethod.toList) (script : List Reply) :
    ∃ c, prepare (s.withChannel (rehearsed s script)) = .ok () (s.withChannel c) ∧
      c.Waits [] script := by
  have place_word : ' ' ∉ (s.className ++ "." ++ s.entryMethod).toList := by
    simp [class_word, entry_word]
  have waits₀ : (rehearsed s script).Waits banner.toList (opening s ++ script) :=
    ⟨⟨rfl, rfl⟩, rfl, rfl, rfl⟩
  obtain ⟨c₁, sent₁, waits₁⟩ := exists_told s waits₀ rfl
  obtain ⟨found₁, c₂, taken₁, rest₁, set, waits₂, cut₁⟩ :=
    exists_expected s (p := breakpointSet) rfl waits₁
      ((infix_breakpointSet _).trans (List.suffix_append ..).isInfix)
      fun _ => ⟨_, [], by simp, .inl rfl, fun _ none => absurd none List.not_mem_nil⟩
  obtain ⟨c₃, sent₂, waits₃⟩ := exists_told s waits₂ rfl
  obtain ⟨found₂, c₄, taken₂, rest₂, hit, waits₄, cut₂⟩ :=
    exists_expected s (p := breakpointHit) rfl waits₃
      ((infix_breakpointHit _ _).trans (List.suffix_append ..).isInfix) fun _ => rfl
  obtain ⟨c₅, sent₃, waits₅⟩ := exists_told s waits₄ rfl
  obtain ⟨c₆, sent₄, waits₆⟩ := exists_told s waits₅ rfl
  -- All that was printed before the variables is tidy, and what waits of it is its end.
  have quiet : localsAnswer.find? (rest₂ ++ (String.ofList Printed.prompt).toList ++
      (String.ofList Printed.prompt).toList) = none := by
    have all := (((tidy_of_blanksWellEnded (by decide +kernel : blanksWellEnded banner.toList = true)
      []).append (tidy_breakpointAnswer place_word _)).append
      (tidy_runAnswer class_word place_word _)).append
      (tidy_of_blanksWellEnded (by decide +kernel :
        blanksWellEnded (Printed.prompt ++ Printed.prompt) = true) _)
    have cut₁ : banner.toList ++ (breakpointAnswer (s.className ++ "." ++ s.entryMethod)).toList =
      taken₁ ++ rest₁ := cut₁
    have cut₂ : rest₁ ++ (runAnswer s.className (s.className ++ "." ++ s.entryMethod)).toList =
      taken₂ ++ rest₂ := cut₂
    rw [cut₁, List.append_assoc taken₁, cut₂, List.append_assoc, List.append_assoc] at all
    simpa using find?_localsAnswer_of_tidy all.of_append.of_append
  obtain ⟨c₇, asked, waits₇⟩ := exists_locals s waits₆ quiet divided_firstFrame
  refine ⟨c₇, ?_, waits₇⟩
  rw [prepare, get_bind]
  refine bind_eq_ok.2 ⟨(), _, sent₁, bind_eq_ok.2 ⟨found₁, _, set, ?_⟩⟩
  refine bind_eq_ok.2 ⟨(), _, sent₂, bind_eq_ok.2 ⟨found₂, _, hit, ?_⟩⟩
  rw [get_bind]
  refine bind_eq_ok.2 ⟨(), _, sent₃, bind_eq_ok.2 ⟨(), _, sent₄, ?_⟩⟩
  exact bind_eq_ok.2 ⟨_, _, asked, rfl⟩

/-- A session is started on a debugger that answers as it should. -/
theorem spawn_rehearsed [Launcher L Scripted] {s : Session Scripted L} {args : List String}
    {launcher : L} (launched : Launcher.launch (s.launchCommand args) s.launcher =
      .ok (rehearsed s script) launcher)
    (class_word : ' ' ∉ s.className.toList) (entry_word : ' ' ∉ s.entryMethod.toList) :
    ∃ (s₁ : Session Scripted L) (c : Scripted),
      spawn args false s = .ok () (s₁.withChannel c) ∧ c.Waits [] script ∧
      s₁.trace = s.trace.clear := by
  let s₀ : Session Scripted L := { s.close with
    launcher
    journal := s.close.journal ++ [.launched (s.launchCommand args)] }
  obtain ⟨c, prepared, waits⟩ := prepare_rehearsed s₀ class_word entry_word script
  have direct : launchProcesses args false s.close = .ok () (s₀.withChannel (rehearsed s script)) := by
    rw [launchProcesses, if_neg Bool.false_ne_true, launchDirect, get_bind]
    exact bind_eq_ok.2 ⟨_, _, launch_eq_ok.2 ⟨launcher, launched, rfl⟩, rfl⟩
  have started : start args false s.close =
      .ok () ({ s₀ with trace := s.trace.clear }.withChannel c) :=
    bind_eq_ok.2 ⟨(), _, direct, bind_eq_ok.2 ⟨(), _, prepared, rfl⟩⟩
  refine ⟨{ s₀ with trace := s.trace.clear }, c, ?_, waits, rfl⟩
  rw [spawn, started]

end Retrace.Session
