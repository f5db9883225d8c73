import Retrace.Proofs.Debugger.Prompt
import Retrace.Proofs.Text.Occurrence
import Retrace.Proofs.Text.Trim
import Retrace.Session.Step

/-!
# Reading a value

The answer to a request for a value goes from the first occurrence of the name
with its equals sign to the last occurrence of the prompt, whatever stands between
them, the prompt itself included. What is read there is the text that was printed.
-/

namespace Retrace.Message

open Retrace.Expr Text

variable {name prompt : String} {before value rest : List Char}

/-- What stands before a value. -/
def nameTitle (name : String) : List Char :=
  name.toList ++ " = ".toList

/-- What the pattern for an answer covers. -/
theorem covers_dump {previous : Option Char} {w : List Char} :
    (dump name prompt).expr.Covers previous w ↔
      ∃ v, w = nameTitle name ++ (v ++ prompt.toList) := by
  simp only [dump, covers_seq, covers_lit]
  constructor
  · rintro ⟨_, _, rfl, ⟨_, v, rfl, ⟨_, _, rfl, rfl, rfl⟩, -⟩, rfl⟩
    exact ⟨v, by simp [nameTitle]⟩
  · rintro ⟨v, rfl⟩
    exact ⟨_, _, by simp [nameTitle], ⟨_, v, rfl, ⟨_, _, rfl, rfl, rfl⟩, fun _ _ => rfl⟩, rfl⟩

-- ---------------------------------------------------------------------------
-- Up to the last occurrence
-- ---------------------------------------------------------------------------

/-- Any text, and then a fixed one. -/
def upTo (t : String) : Expr :=
  .many (fun _ => true) ++ lit t

theorem ways_upTo_eq_nil {t : String} {s : List Char} (absent : ¬ t.toList <:+: s)
    (previous : Option Char) : (upTo t).ways previous s = [] := by
  refine List.eq_nil_iff_forall_not_mem.2 fun x hx => absent ?_
  obtain ⟨v, w, text_eq, -, rfl⟩ := covers_seq.1 (covers_of_mem_ways rfl hx)
  rw [← ways_append hx, text_eq]
  exact List.infix_append v _ x.rest

/-- The fixed text is looked for behind every run. -/
theorem ways_upTo (t : String) (previous : Option Char) (s : List Char) :
    (upTo t).ways previous s =
      (runs (fun _ => true) s).flatMap fun split =>
        ((lit t).ways none split.2).map fun x => ⟨split.1 ++ x.text, x.rest, x.captures⟩ := by
  rw [upTo, ways_seq, ways, List.flatMap_map]
  congr 1
  funext split
  simp [Way.ofSplit, Way.andThen, lit, ways]

/-- It is looked for in what follows the first character before it is looked for here. -/
theorem ways_upTo_cons (t : String) (c : Char) (s : List Char) (previous : Option Char) :
    (upTo t).ways previous (c :: s) =
      ((upTo t).ways previous s).map (fun x => { x with text := c :: x.text }) ++
        (lit t).ways none (c :: s) := by
  simp [ways_upTo, runs, List.map_flatMap, List.flatMap_map, Function.comp_def]

/-- Of all occurrences of the fixed text the last one is preferred. -/
theorem first?_upTo {t : String} (last : OccursLast t.toList value rest)
    (previous : Option Char) :
    (upTo t).first? previous (value ++ (t.toList ++ rest)) =
      some ⟨value ++ t.toList, rest, []⟩ := by
  induction value with
  | cons c value ih =>
    have later : ((upTo t).ways previous (value ++ (t.toList ++ rest))).head? = _ := ih last.of_cons
    simp [first?, ways_upTo_cons, List.head?_append, later]
  | nil =>
    have here := first?_lit t none rest
    rw [List.nil_append, List.nil_append]
    cases cut : t.toList ++ rest with
    | nil =>
      rw [cut] at here
      simpa [first?, ways_upTo, runs] using here
    | cons c s =>
      have none_later := ways_upTo_eq_nil (last.not_infix_tail cut) previous
      rw [cut] at here
      rw [first?, ways_upTo_cons, none_later]
      exact here

-- ---------------------------------------------------------------------------
-- The whole answer
-- ---------------------------------------------------------------------------

/-- The answer starts with the first occurrence of the name and ends with the last one of the
prompt. -/
theorem picks_dump
    (first : OccursFirst (nameTitle name) before (value ++ (prompt.toList ++ rest)))
    (last : OccursLast prompt.toList value rest) :
    (dump name prompt).expr.Picks
      (before ++ (nameTitle name ++ (value ++ (prompt.toList ++ rest)))) before
      ⟨nameTitle name ++ (value ++ prompt.toList), rest, []⟩ where
  text_eq := by simp
  first_eq := by
    have body (previous : Option Char) := first?_upTo last previous
    have titled := first?_seq (first?_lit name before.getLast? _)
      (first?_seq (first?_lit " = " _ _) (body _))
    simp only [dump, first?_assoc]
    simpa [nameTitle, Way.andThen, upTo] using titled
  misses := by
    intro a c b cut
    refine List.eq_nil_iff_forall_not_mem.2 fun x hx => ?_
    obtain ⟨v, text_eq⟩ := covers_dump.1 (covers_of_mem_ways rfl hx)
    have whole := ways_append hx
    rw [text_eq, List.append_assoc] at whole
    have early := first a ((v ++ prompt.toList) ++ x.rest) (by
      rw [whole, cut]
      simp)
    have longer : a.length < before.length := by simp [cut]
    exact absurd early (Nat.not_le_of_lt longer)

/-- The answer is taken from the first occurrence of the name up to the last one of the prompt. -/
theorem take?_dump {b : Buffer}
    (hb : b.pending = before ++ (nameTitle name ++ (value ++ (prompt.toList ++ rest))))
    (first : OccursFirst (nameTitle name) before (value ++ (prompt.toList ++ rest)))
    (last : OccursLast prompt.toList value rest) :
    b.take? (dump name prompt) =
      some (⟨.ofList before, .ofList (nameTitle name ++ (value ++ prompt.toList))⟩,
        { b with pending := rest }) := by
  have picks := picks_dump first last
  rw [← hb] at picks
  exact Buffer.take?_of_picks picks

-- ---------------------------------------------------------------------------
-- The value in it
-- ---------------------------------------------------------------------------

/-- A prompt without the blank at its end. -/
theorem IsPrompt.trim_eq {w : List Char} (h : IsPrompt w) :
    w = trim w ++ [' '] ∧ (trim w).getLast? = some ']' := by
  obtain ⟨thread, number, rfl, ⟨nonempty, word⟩, -⟩ := h
  obtain ⟨c, thread, rfl⟩ := List.exists_cons_of_ne_nil nonempty
  have plain : isBlank c = false := by
    have := word c (.head _)
    simp only [inThread, Bool.and_eq_true, Bool.not_eq_true'] at this
    exact this.1
  have trimmed : trim (c :: thread ++ '[' :: (number ++ "] ".toList)) =
      c :: ((thread ++ '[' :: number) ++ [']']) := by
    have cut : c :: thread ++ '[' :: (number ++ "] ".toList) =
        c :: ((thread ++ '[' :: number) ++ [']']) ++ [' '] := by simp
    rw [cut, trim_append_of_blank (by decide), trim_enclosed plain (by decide)]
  rw [trimmed]
  exact ⟨by simp, by simp [List.getLast?_cons]⟩

/-- What stands between the name and the prompt is the value, with blanks around it. -/
theorem dumpedValue_answer (nonempty : name ≠ "") (trimmed : trim name.toList = name.toList)
    (prompt value : List Char) :
    Session.dumpedValue name.toList prompt (nameTitle name ++ (value ++ prompt)) =
      .read (trim value) := by
  have body : stripEnd? prompt (nameTitle name ++ (value ++ prompt)) =
      some (nameTitle name ++ value) := by
    rw [← List.append_assoc, stripEnd?_append]
  have text : trim (nameTitle name ++ value) =
      name.toList ++ ' ' :: '=' :: trimEnd (' ' :: value) := by
    have name_ne : name.toList ≠ [] := by simpa using nonempty
    obtain ⟨c, t, ht⟩ := List.exists_cons_of_ne_nil name_ne
    have start : ∀ c ∈ (nameTitle name ++ value).head?, isBlank c = false := by
      intro d hd
      refine (ends_of_trim trimmed).1 d ?_
      simpa [nameTitle, ht] using hd
    have cut : nameTitle name ++ value = (name.toList ++ [' ']) ++ '=' :: (' ' :: value) := by
      simp [nameTitle]
    rw [trim_of_start start, cut, trimEnd_append_cons (by decide)]
    simp
  have sign : trimStart (' ' :: '=' :: trimEnd (' ' :: value)) =
      ['='] ++ trimEnd (' ' :: value) := by
    have blank : isBlank ' ' = true := by decide
    have plain : isBlank '=' = false := by decide
    simp [trimStart, blank, plain]
  rw [Session.dumpedValue, body, Option.getD_some, text, stripStart?_append, Option.bind_some, sign,
    stripStart?_append, Option.getD_some, trim_trimEnd, trim_cons_of_blank (by decide)]

end Retrace.Message
