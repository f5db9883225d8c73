import Retrace.Proofs.Debugger.Dump
import Retrace.Proofs.Pattern.Source

/-!
# Looking for a value

The pattern for the answer with a value is made of two free texts, a name and a
prompt. In its written form both stand for themselves, and what it finds is what
two searches for plain texts find: the first occurrence of the name with its equals
sign, and the last occurrence of the prompt behind it.
-/

namespace Retrace.Message

open Retrace.Expr Text

variable {name prompt : String} {s before value rest : List Char}

-- ---------------------------------------------------------------------------
-- The written form
-- ---------------------------------------------------------------------------

/-- The signs of the written form behind its flag. -/
theorem scan?_dump (name prompt : String) :
    Sign.scan? (Pattern.escape name.toList ++ (" = .*".toList ++ Pattern.escape prompt.toList)) =
      some ((nameTitle name).map .letter ++ .point :: .star :: prompt.toList.map .letter) := by
  have prompt_signs : Sign.scan? (Pattern.escape prompt.toList) =
      some (prompt.toList.map .letter) := by
    simpa [Sign.scan?] using Sign.scan?_escape prompt.toList []
  have between : Sign.scan? (" = .*".toList ++ Pattern.escape prompt.toList) =
      some (" = ".toList.map .letter ++ .point :: .star :: prompt.toList.map .letter) := by
    simp [Sign.scan?, Sign.ofChar?, Sign.operators, prompt_signs]
  rw [Sign.scan?_escape, between]
  simp [nameTitle]

/-- The pattern, with the title as one text. -/
theorem ways_dump (name prompt : String) :
    (dump name prompt).expr.ways =
      (.text (nameTitle name) ++ (.many (fun _ => true) ++ lit prompt) : Expr).ways := by
  calc (dump name prompt).expr.ways
      = (lit name ++ (lit " = " ++ (.many (fun _ => true) ++ lit prompt))).ways := by
        funext previous s
        simp only [dump, ways_assoc]
    _ = (.text (nameTitle name) ++ (.many (fun _ => true) ++ lit prompt) : Expr).ways :=
        ways_text_text_seq name.toList " = ".toList _

/-- The written form is read as a pattern with the same ways. -/
theorem exists_ofSource?_dump (name prompt : String) :
    ∃ p, Pattern.ofSource? (dump name prompt).source = some p ∧
      p.expr.ways = (dump name prompt).expr.ways := by
  obtain ⟨e, read, same⟩ :=
    (Sign.read_text (fun _ => true) prompt.toList).points.letters (by simp) (nameTitle name)
  have cut : (dump name prompt).source.toList = "(?s)".toList ++
      (Pattern.escape name.toList ++ (" = .*".toList ++ Pattern.escape prompt.toList)) := by
    simp [dump, Pattern.literal]
  refine ⟨⟨(dump name prompt).source, e⟩, ?_, same.trans (ways_dump name prompt).symm⟩
  have read_source : Expr.read? (dump name prompt).source.toList = some e := by
    rw [Expr.read?, cut, stripStart?_append]
    simp only [scan?_dump, Option.bind_some, read]
  rw [Pattern.ofSource?, read_source, Option.map_some]

-- ---------------------------------------------------------------------------
-- The first title and the last prompt behind it
-- ---------------------------------------------------------------------------

/-- A value stands between the first title in a text and the last prompt behind it. -/
structure Delimited (name prompt : String) (s before value rest : List Char) : Prop where
  text_eq : before ++ (nameTitle name ++ (value ++ (prompt.toList ++ rest))) = s
  first : OccursFirst (nameTitle name) before (value ++ (prompt.toList ++ rest))
  last : OccursLast prompt.toList value rest

/-- If any title is followed by a prompt, so is the first one. -/
theorem exists_delimited
    (h : before ++ (nameTitle name ++ (value ++ (prompt.toList ++ rest))) = s) :
    ∃ before value rest, Delimited name prompt s before value rest := by
  have titled : nameTitle name <:+: s :=
    ⟨before, value ++ (prompt.toList ++ rest), by simpa using h⟩
  obtain ⟨start, body, rfl, first⟩ := exists_occursFirst titled
  have early : start.length ≤ before.length := first before (value ++ (prompt.toList ++ rest)) h
  -- The first title ends no later than this one, so the prompt stands in what follows it.
  have ends : prompt.toList ++ rest <:+ start ++ (nameTitle name ++ body) :=
    ⟨before ++ (nameTitle name ++ value), by simp [← h]⟩
  have behind : prompt.toList ++ rest <:+ body := by
    refine List.suffix_of_suffix_length_le ends ⟨start ++ nameTitle name, by simp⟩ ?_
    have lengths := congrArg List.length h
    simp only [List.length_append] at lengths ⊢
    omega
  obtain ⟨v, w, rfl, last⟩ := exists_occursLast
    ((List.prefix_append prompt.toList rest).isInfix.trans behind.isInfix)
  exact ⟨start, v, w, rfl, first, last⟩

/-- What is found around a value. -/
def valueMatch (name prompt : String) (before value rest : List Char) : Match :=
  let text := nameTitle name ++ (value ++ prompt.toList)
  { start := before.length
    text := text
    stop := ⟨(before ++ text).length, (before ++ text).getLast?, rest⟩
    captures := [] }

theorem find?_dump_of_delimited (h : Delimited name prompt s before value rest) :
    (dump name prompt).find? s = some (valueMatch name prompt before value rest) := by
  have picks := picks_dump h.first h.last
  rw [h.text_eq] at picks
  rw [Pattern.find?_of_picks picks]
  simp [matchOf, Way.stop, valueMatch, lastOf, List.getLast?_append]

theorem isMatch_dump_iff :
    (dump name prompt).isMatch s = true ↔
      ∃ before value rest, before ++ (nameTitle name ++ (value ++ (prompt.toList ++ rest))) = s := by
  constructor
  · intro h
    obtain ⟨m, found⟩ := Option.isSome_iff_exists.1 h
    obtain ⟨before, x, picks, -⟩ := Pattern.exists_picks_of_find? found
    obtain ⟨value, covered⟩ := covers_dump.1
      (covers_of_mem_ways rfl (List.mem_of_mem_head? picks.first_eq))
    exact ⟨before, value, x.rest, by simpa [covered] using picks.text_eq⟩
  · rintro ⟨before, value, rest, h⟩
    obtain ⟨_, _, _, delimited⟩ := exists_delimited h
    rw [Pattern.isMatch, find?_dump_of_delimited delimited]
    rfl

theorem find?_dump_eq_some_iff {m : Match} :
    (dump name prompt).find? s = some m ↔
      ∃ before value rest, Delimited name prompt s before value rest ∧
        m = valueMatch name prompt before value rest := by
  constructor
  · intro found
    obtain ⟨before, value, rest, h⟩ := isMatch_dump_iff.1 (by rw [Pattern.isMatch, found]; rfl)
    obtain ⟨before, value, rest, delimited⟩ := exists_delimited h
    rw [find?_dump_of_delimited delimited] at found
    exact ⟨before, value, rest, delimited, (Option.some.inj found).symm⟩
  · rintro ⟨before, value, rest, delimited, rfl⟩
    exact find?_dump_of_delimited delimited

/-- What is taken from the output that waits ends with the last prompt behind the first title. -/
theorem exists_delimited_of_take? {b : Buffer} {r : Expectation × Buffer}
    (h : b.take? (dump name prompt) = some r) :
    ∃ before value rest, Delimited name prompt b.pending before value rest ∧
      r.1 = ⟨.ofList before, .ofList (nameTitle name ++ (value ++ prompt.toList))⟩ := by
  obtain ⟨m, found, -⟩ := Option.map_eq_some_iff.1 h
  obtain ⟨before, value, rest, delimited, -⟩ := find?_dump_eq_some_iff.1 found
  rw [take?_dump delimited.text_eq.symm delimited.first delimited.last] at h
  exact ⟨before, value, rest, delimited, (congrArg Prod.fst (Option.some.inj h)).symm⟩

/-- The pattern for a value is a search for two plain texts. Its written form is read as a pattern
that finds the same in every text, so no character of the name or the prompt means anything but
itself. It matches exactly if a title is followed by a prompt, and then it covers the text from the
first title to the last prompt behind it. -/
theorem dump_searches_literally (name prompt : String) :
    ∃ p, Pattern.ofSource? (dump name prompt).source = some p ∧
      ∀ s, p.find? s = (dump name prompt).find? s ∧
        ((dump name prompt).isMatch s = true ↔ ∃ before value rest,
          before ++ (nameTitle name ++ (value ++ (prompt.toList ++ rest))) = s) ∧
        ∀ m, (dump name prompt).find? s = some m ↔ ∃ before value rest,
          Delimited name prompt s before value rest ∧
            m = valueMatch name prompt before value rest := by
  obtain ⟨p, read, same⟩ := exists_ofSource?_dump name prompt
  exact ⟨p, read, fun s => ⟨Pattern.find?_congr same s, isMatch_dump_iff,
    fun _ => find?_dump_eq_some_iff⟩⟩

example : (dump "a[0]" "main[1]").isMatch "a[0] = 7\r\nmain[1]".toList = true ∧
    (dump "a[0]" "main[1]").isMatch "a0 = 7\r\nmain1".toList = false := by
  decide +kernel

end Retrace.Message
