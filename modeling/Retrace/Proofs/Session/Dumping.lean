import Retrace.Proofs.Debugger.Dump
import Retrace.Proofs.Session.Call
import Retrace.Proofs.Session.Exchange
import Retrace.Proofs.Value.Reading

/-!
# Asking for values

A session asks for a value in two exchanges: an empty line brings the prompt, and
the prompt tells where the answer to the request ends. Of the prompt at the end of
an answer the blank is left over, and blanks do not disturb the next request, so
any number of requests read what the debugger printed.
-/

namespace Retrace

open Message Text Printed

/-- What the debugger prints for a name. Anything may be echoed before it, and the value is any
text. -/
structure DumpAnswer where
  name : String
  echo : List Char
  value : List Char
  /-- The prompt, with the blank at its end. -/
  prompt : List Char
  /-- The debugger ends with this answer. -/
  exits : Bool := false
  name_nonempty : name ≠ ""
  name_trimmed : trim name.toList = name.toList
  isPrompt : IsPrompt prompt
  /-- The name with its equals sign does not occur before its place in the answer. -/
  first : OccursFirst (nameTitle name) echo (value ++ "\r\n".toList ++ prompt)

namespace DumpAnswer

variable {b : Buffer} {stale : List Char}

/-- The value that is read. -/
def read (a : DumpAnswer) : Value :=
  .read (trim a.value)

/-- What is written after the request. -/
def text (a : DumpAnswer) : List Char :=
  a.echo ++ (nameTitle a.name ++ (a.value ++ "\r\n".toList ++ a.prompt))

/-- The answers to the empty line and to the request. -/
def replies (a : DumpAnswer) : List Reply :=
  [⟨"", .ofList ("\r\n".toList ++ a.prompt), false⟩, ⟨"dump " ++ a.name, .ofList a.text, a.exits⟩]

/-- The prompt that the empty line brings is taken with all that waited before it. -/
theorem take?_probe (a : DumpAnswer) (blank : ∀ c ∈ stale, isBlank c = true)
    (hb : b.pending = stale ++ ("\r\n".toList ++ a.prompt)) :
    ∃ found b', b.take? Message.prompt = some (found, b') ∧ found.matched.toList = a.prompt ∧
      b'.pending = [] := by
  have taken := take?_prompt_of_blanks a.isPrompt blank (hb.trans (List.append_assoc ..).symm)
  exact ⟨_, _, taken, String.toList_ofList, rfl⟩

/-- The answer is taken up to its last prompt, without the blank after that. -/
theorem take?_text (a : DumpAnswer) (hb : b.pending = a.text) :
    ∃ found b', b.take? (Message.dump a.name (.ofList (trim a.prompt))) = some (found, b') ∧
      Session.dumpedValue a.name.toList (trim a.prompt) found.matched.toList = a.read ∧
      b'.pending = [' '] := by
  obtain ⟨prompt_eq, ends⟩ := a.isPrompt.trim_eq
  have last := occursLast_before ends (by decide : ']' ≠ ' ') (a.value ++ "\r\n".toList)
  have first := a.first
  rw [prompt_eq] at first
  have cut : b.pending = a.echo ++ (nameTitle a.name ++
      ((a.value ++ "\r\n".toList) ++ ((String.ofList (trim a.prompt)).toList ++ [' ']))) := by
    simp [hb, text, ← prompt_eq]
  have taken := take?_dump cut (by simpa using first) (by simpa using last)
  refine ⟨_, _, taken, ?_, rfl⟩
  have blanks : ∀ c ∈ "\r\n".toList, isBlank c = true := by decide
  have value := dumpedValue_answer a.name_nonempty a.name_trimmed (trim a.prompt)
    (a.value ++ "\r\n".toList)
  rw [trim_append_blanks blanks] at value
  simpa [read] using value

end DumpAnswer

namespace Session

variable {L : Type} {s : Session Scripted L} {c : Scripted} {stale : List Char}
  {script : List Reply}

/-- One request reads the value that is printed and leaves a blank. -/
theorem exists_dump (a : DumpAnswer) (waits : c.Waits stale (a.replies ++ script))
    (blank : ∀ c ∈ stale, isBlank c = true) :
    ∃ c', dump a.name (s.withChannel c) = .ok (some a.read) (s.withChannel c') ∧
      c'.buffer.pending = [' '] ∧ (a.exits = false → c'.Waits [' '] script) := by
  obtain ⟨probe, b₁, probed, prompt_eq, nothing⟩ := a.take?_probe blank
    ((waits.told_pending "").trans (by rw [String.toList_ofList]))
  have waits₁ := (waits.told rfl "").leaving b₁
  rw [nothing] at waits₁
  obtain ⟨found, b₂, taken, read, left⟩ := a.take?_text
    ((waits₁.told_pending ("dump " ++ a.name)).trans (by simp))
  have asked : askDump a.name (s.withChannel c) =
      .ok a.read (s.withChannel ((((c.told "").leaving b₁).told ("dump " ++ a.name)).leaving b₂)) := by
    refine send_bind_eq_ok_iff.2 ⟨waits.live, waits.accepts, ?_⟩
    refine expect_bind_eq_ok_iff.2 ⟨probe, b₁, probed, ?_⟩
    rw [prompt_eq]
    refine send_bind_eq_ok_iff.2 ⟨waits₁.live, waits₁.accepts, ?_⟩
    refine expect_bind_eq_ok_iff.2 ⟨found, b₂, taken, ?_⟩
    rw [read]
    rfl
  refine ⟨(((c.told "").leaving b₁).told ("dump " ++ a.name)).leaving b₂, ?_, left, ?_⟩
  · rw [dump, whenActive_of_active (isActive_withChannel.2 waits.live), bind_of_ok asked]
    rfl
  · intro stays
    rw [← left]
    exact (waits₁.told stays _).leaving b₂

/-- Any number of requests while the debugger goes on. -/
theorem exists_dumps {answers : List DumpAnswer}
    (waits : c.Waits stale (answers.flatMap DumpAnswer.replies ++ script))
    (blank : ∀ c ∈ stale, isBlank c = true) (stays : ∀ a ∈ answers, a.exits = false) :
    ∃ c' left, answers.mapM (fun a => dump a.name) (s.withChannel c) =
        .ok (answers.map fun a => some a.read) (s.withChannel c') ∧
      (∀ c ∈ left, isBlank c = true) ∧ c'.Waits left script := by
  induction answers generalizing c stale with
  | nil => exact ⟨c, stale, rfl, blank, waits⟩
  | cons a answers ih =>
    rw [List.flatMap_cons, List.append_assoc] at waits
    obtain ⟨stays, others⟩ := List.forall_mem_cons.1 stays
    obtain ⟨c₁, read, -, waits₁⟩ := exists_dump (s := s) a waits blank
    have space : ∀ c ∈ [' '], isBlank c = true := by decide
    obtain ⟨c', left, later, blank', waits'⟩ := ih (waits₁ stays) space others
    refine ⟨c', left, ?_, blank', waits'⟩
    rw [List.mapM_cons, bind_of_ok read, bind_of_ok later]
    rfl

/-- Each of any number of requests reads the value that is printed for it, whatever the name and
the value look like, and leaves only blanks. The debugger may end with the last answer. -/
theorem dumps_tell {answers done : List DumpAnswer}
    (waits : c.Waits stale (answers.flatMap DumpAnswer.replies ++ script))
    (blank : ∀ c ∈ stale, isBlank c = true) (stays : ∀ a ∈ answers.dropLast, a.exits = false)
    (part : done <+: answers) :
    ∃ c', done.mapM (fun a => dump a.name) (s.withChannel c) =
        .ok (done.map fun a => some a.read) (s.withChannel c') ∧
      ∀ c ∈ c'.buffer.pending, isBlank c = true := by
  obtain ⟨later, rfl⟩ := part
  rcases List.eq_nil_or_concat' done with rfl | ⟨front, last, rfl⟩
  · refine ⟨c, rfl, ?_⟩
    rw [waits.pending_eq]
    exact blank
  · have front_stays : ∀ a ∈ front, a.exits = false := by
      intro a ha
      apply stays
      rw [List.append_assoc, List.dropLast_append_of_ne_nil (by simp)]
      exact List.mem_append_left _ ha
    simp only [List.flatMap_append, List.flatMap_singleton, List.append_assoc] at waits
    obtain ⟨c₁, left, read, blank₁, waits₁⟩ := exists_dumps (s := s) waits blank front_stays
    obtain ⟨c', read_last, pending, -⟩ := exists_dump (s := s) last waits₁ blank₁
    refine ⟨c', ?_, ?_⟩
    · have single : [last].mapM (fun a => dump a.name) (s.withChannel c₁) =
          .ok [some last.read] (s.withChannel c') := by
        rw [List.mapM_cons, bind_of_ok read_last]
        rfl
      rw [List.mapM_append, bind_of_ok read, bind_of_ok single, List.map_append]
      rfl
    · rw [pending]
      decide

/-- An element of an array whose text looks like an answer with a prompt. -/
def subscripted : DumpAnswer where
  name := "a[0]"
  echo := "a[0]: ".toList
  value := "\"a[0] = \r\nmain[1] \"".toList
  prompt := "main[1] ".toList
  name_nonempty := by simp
  name_trimmed := by decide +kernel
  isPrompt := isPrompt_prompt
  first := by decide +kernel

/-- A field, asked for in another thread, which ends with the answer. -/
def qualified : DumpAnswer where
  name := "this.x"
  echo := []
  value := "instance of int[3] (id=5)\r\nworker-1[12] = x\r\n".toList
  prompt := "worker-1[12] ".toList
  exits := true
  name_nonempty := by simp
  name_trimmed := by decide +kernel
  isPrompt := ⟨"worker-1".toList, "12".toList, rfl, by decide, by decide⟩
  first := by decide +kernel

/-- A debugger that waits for a line; blanks are left over from the line before. -/
def idle : Scripted where
  buffer := { pending := " \r\n".toList }
  script := [subscripted, qualified].flatMap DumpAnswer.replies

/-- Values are read that look like answers and prompts, also when the prompt changes. -/
theorem dumps_tell_confusing :
    idle.Waits " \r\n".toList ([subscripted, qualified].flatMap DumpAnswer.replies ++ []) ∧
      (∀ c ∈ " \r\n".toList, isBlank c = true) ∧
      (∀ a ∈ [subscripted, qualified].dropLast, a.exits = false) ∧
      ∃ c', [subscripted, qualified].mapM (fun a => dump a.name)
          ((Session.new "Main" {} ()).withChannel idle) =
          .ok [some (.string "a[0] = \r\nmain[1] "),
            some (.reference "instance of int[3] (id=5)\r\nworker-1[12] = x")]
            ((Session.new "Main" {} ()).withChannel c') ∧
        ∀ c ∈ c'.buffer.pending, isBlank c = true := by
  have waits : idle.Waits " \r\n".toList
      ([subscripted, qualified].flatMap DumpAnswer.replies ++ []) :=
    ⟨⟨rfl, rfl⟩, rfl, rfl, by simp [idle]⟩
  have blank : ∀ c ∈ " \r\n".toList, isBlank c = true := by decide
  have stays : ∀ a ∈ [subscripted, qualified].dropLast, a.exits = false := by
    simp [subscripted]
  have element : subscripted.read = .string "a[0] = \r\nmain[1] " := by
    have trimmed : trim subscripted.value = '"' :: ("a[0] = \r\nmain[1] ".toList ++ ['"']) := by
      decide +kernel
    rw [DumpAnswer.read, trimmed, Value.read_quoted]
    rfl
  have field : qualified.read = .reference "instance of int[3] (id=5)\r\nworker-1[12] = x" := by
    have trimmed : trim qualified.value =
        "instance of int[3] (id=5)\r\nworker-1[12] = x".toList := by decide +kernel
    rw [DumpAnswer.read, trimmed, Value.read_of_reference (by decide)]
    rfl
  have told := dumps_tell (s := Session.new "Main" {} ()) waits blank stays (List.prefix_refl _)
  rw [List.map_cons, List.map_singleton, element, field] at told
  exact ⟨waits, blank, stays, told⟩

end Session

end Retrace
