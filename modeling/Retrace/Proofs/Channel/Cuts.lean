import Retrace.Proofs.Channel.Arrival
import Retrace.Proofs.Debugger.ValueSearch
import Retrace.Proofs.Value.Reading

/-!
# Cuts within a value

The answer to a request for a value ends with the last occurrence of the prompt,
and which one is the last is not known before the whole answer has arrived. A
search after each piece of output finds what one search in the whole answer finds
exactly if the prompt occurs only once.
-/

namespace Retrace.Buffer

open Message Text

-- ---------------------------------------------------------------------------
-- Every moment of an arrival
-- ---------------------------------------------------------------------------

section Arrival

variable {α : Type} {feed : Buffer → α → Buffer} {p : Pattern} {whole : List Char}
  {found : Expectation} {b : Buffer}

/-- What waits is always the beginning of a text, and the whole of it after the last piece. -/
inductive Arrives (feed : Buffer → α → Buffer) (whole : List Char) : Buffer → List α → Prop where
  | last {b : Buffer} (pending : b.pending = whole) : Arrives feed whole b []
  | more {b : Buffer} {piece : α} {pieces : List α} (pending : b.pending <+: whole)
      (later : Arrives feed whole (feed b piece) pieces) : Arrives feed whole b (piece :: pieces)

theorem arrives_feed {pieces : List String}
    (h : b.pending ++ (String.join pieces).toList = whole) :
    Arrives Buffer.feed whole b pieces := by
  induction pieces generalizing b with
  | nil => exact .last (by simpa using h)
  | cons piece pieces ih =>
    refine .more ⟨_, h⟩ (ih ?_)
    simpa [Buffer.feed] using h

theorem arrives_feedBytes {t : List Char} {pieces : List (List UInt8)}
    (h : b.unfinished ++ pieces.flatten = Utf8.encode t) (waiting : pieces = [] → t = []) :
    Arrives feedBytes (b.pending ++ t) b pieces := by
  induction pieces generalizing b t with
  | nil => exact .last (by simp [waiting rfl])
  | cons piece pieces ih =>
    obtain ⟨u, v, w, rfl, hw, done, fed⟩ :=
      feedBytes_of_encode (show b.unfinished ++ piece ++ pieces.flatten = _ by simpa using h)
    refine .more ⟨_, rfl⟩ ?_
    rw [fed, ← List.append_assoc]
    exact ih (b := ⟨b.pending ++ u, w⟩) hw fun hp => done (by simp [hp])

/-- What is found in the whole text, and in a part of it if anything, is found in its pieces. -/
theorem await_of_arrives {pieces : List α} (arrives : Arrives feed whole b pieces)
    (parts : ∀ (b : Buffer) r, b.pending <+: whole → b.take? p = some r → r.1 = found)
    (all : ∀ b : Buffer, b.pending = whole → (b.take? p).map (·.1) = some found) :
    (await feed p b pieces).map (·.1) = some found := by
  induction arrives with
  | last pending =>
    rw [← all _ pending]
    simp [await, Function.comp_def]
  | @more b piece pieces pending later ih =>
    cases taken : b.take? p with
    | some r => simp [await, taken, parts b r pending taken]
    | none =>
      rw [await, taken]
      exact ih

end Arrival

-- ---------------------------------------------------------------------------
-- The answer and its beginnings
-- ---------------------------------------------------------------------------

variable {name prompt : String} {value body : List Char} {b : Buffer}

/-- The answer for a name with nothing before it: the value, and the prompt on a line of its own
with a blank behind it. -/
def dumpReply (name prompt : String) (value : List Char) : List Char :=
  nameTitle name ++ (value ++ "\r\n".toList ++ (prompt.toList ++ [' ']))

/-- What a part of an answer is taken for: a value up to an occurrence of the prompt. -/
def upToPrompt (name prompt : String) (v : List Char) : Expectation :=
  ⟨"", .ofList (nameTitle name ++ (v ++ prompt.toList))⟩

theorem upToPrompt_inj {u v : List Char} (h : upToPrompt name prompt u = upToPrompt name prompt v) :
    u = v := by
  have matched := congrArg (fun found => found.matched.toList) h
  simpa [upToPrompt] using matched

theorem take?_titled {w t : List Char}
    (hb : b.pending = nameTitle name ++ (w ++ (prompt.toList ++ t)))
    (last : OccursLast prompt.toList w t) :
    b.take? (dump name prompt) = some (upToPrompt name prompt w, { b with pending := t }) := by
  have cut : b.pending = [] ++ (nameTitle name ++ (w ++ (prompt.toList ++ t))) := hb
  exact take?_dump cut (fun _ _ _ => Nat.zero_le _) last

/-- In the beginning of an answer a value up to some prompt is found, if anything. -/
theorem exists_of_take?_part {r : Expectation × Buffer} (part : b.pending <+: nameTitle name ++ body)
    (h : b.take? (dump name prompt) = some r) :
    ∃ w t, body = w ++ (prompt.toList ++ t) ∧ r.1 = upToPrompt name prompt w := by
  obtain ⟨before, w, t, delimited, found⟩ := exists_delimited_of_take? h
  obtain ⟨later, whole⟩ := part
  have titled : nameTitle name <+: b.pending := by
    refine List.prefix_of_prefix_length_le ⟨body, rfl⟩ ⟨later, whole⟩ ?_
    simp [← delimited.text_eq]
    omega
  -- The title is at the beginning, so the first one is there.
  obtain ⟨s, titled⟩ := titled
  have none_before : before.length ≤ 0 :=
    delimited.first [] s (titled.trans delimited.text_eq.symm)
  obtain rfl := List.eq_nil_of_length_eq_zero (Nat.le_zero.1 none_before)
  refine ⟨w, t ++ later, ?_, found⟩
  rw [← delimited.text_eq, List.nil_append, List.append_assoc] at whole
  simpa using (List.append_cancel_left whole).symm

theorem take?_dump_empty : ({} : Buffer).take? (dump name prompt) = none := by
  cases taken : ({} : Buffer).take? (dump name prompt) with
  | none => rfl
  | some r =>
    obtain ⟨before, value, rest, delimited, -⟩ := exists_delimited_of_take? taken
    simpa [nameTitle] using delimited.text_eq

/-- An answer that is cut behind some prompt is taken for a value that ends there. -/
theorem await_cut {w t : List Char} :
    (await feed (dump name prompt) {}
        [.ofList (nameTitle name ++ (w ++ prompt.toList)), .ofList t]).map (·.1) =
      some (upToPrompt name prompt w) := by
  have fed : (({} : Buffer).feed (.ofList (nameTitle name ++ (w ++ prompt.toList)))).pending =
      nameTitle name ++ (w ++ (prompt.toList ++ [])) := by simp [feed]
  have taken := take?_titled fed (occursLast_at_end prompt.toList w)
  simp only [await, take?_dump_empty, taken]
  rfl

/-- In the whole answer a value up to the last prompt is found. -/
theorem take?_dumpReply {w t : List Char} (hb : b.pending = dumpReply name prompt value)
    (cut : w ++ (prompt.toList ++ t) = value ++ "\r\n".toList ++ (prompt.toList ++ [' ']))
    (last : OccursLast prompt.toList w t) :
    (b.take? (dump name prompt)).map (·.1) = some (upToPrompt name prompt w) := by
  rw [take?_titled (hb.trans (by rw [dumpReply, cut])) last]
  rfl

/-- If all ways to cut the answer agree, the prompt occurs only once: a cut behind any occurrence
finds the value up to there. -/
theorem occursOnce_of_await {w : List Char}
    (agree : ∀ pieces : List String, String.join pieces = .ofList (dumpReply name prompt value) →
      (await feed (dump name prompt) {} pieces).map (·.1) = some (upToPrompt name prompt w)) :
    OccursOnce prompt.toList (value ++ "\r\n".toList) [' '] := by
  have every (u v : List Char)
      (h : u ++ (prompt.toList ++ v) = value ++ "\r\n".toList ++ (prompt.toList ++ [' '])) :
      u = w := by
    have found := agree [.ofList (nameTitle name ++ (u ++ prompt.toList)), .ofList v] (by
      rw [dumpReply, ← h]
      simp [String.join, String.append_assoc])
    rw [await_cut] at found
    exact upToPrompt_inj (Option.some.inj found)
  intro u v h
  rw [every u v h, every (value ++ "\r\n".toList) [' '] rfl]

/-- If the prompt occurs only once, nothing but the whole value is found in a part of the answer. -/
theorem take?_part_of_occursOnce {r : Expectation × Buffer}
    (once : OccursOnce prompt.toList (value ++ "\r\n".toList) [' '])
    (part : b.pending <+: dumpReply name prompt value) (h : b.take? (dump name prompt) = some r) :
    r.1 = upToPrompt name prompt (value ++ "\r\n".toList) := by
  obtain ⟨u, v, text, found⟩ := exists_of_take?_part part h
  rw [found, once u v text.symm]

/-- One search in the whole answer always finds something. A search after each piece finds the same
for all ways to cut the answer exactly if the prompt occurs nowhere but at its end. -/
theorem await_dump_iff_occursOnce (name prompt : String) (value : List Char) :
    ∃ found,
      ((({} : Buffer).feed (.ofList (dumpReply name prompt value))).take? (dump name prompt)).map
          (·.1) = some found ∧
      (((∀ pieces : List String, String.join pieces = .ofList (dumpReply name prompt value) →
          (await feed (dump name prompt) {} pieces).map (·.1) = some found) ∧
        (∀ pieces : List (List UInt8), pieces.flatten = Utf8.encode (dumpReply name prompt value) →
          (await feedBytes (dump name prompt) {} pieces).map (·.1) = some found)) ↔
      OccursOnce prompt.toList (value ++ "\r\n".toList) [' ']) := by
  obtain ⟨w, t, cut, last⟩ := exists_occursLast
    ⟨value ++ "\r\n".toList, [' '], List.append_assoc ..⟩
  refine ⟨upToPrompt name prompt w, take?_dumpReply (by simp [feed]) cut last, ?_, ?_⟩
  · rintro ⟨agree, -⟩
    exact occursOnce_of_await agree
  · intro once
    have whole (b : Buffer) (hb : b.pending = dumpReply name prompt value) :=
      take?_dumpReply hb cut last
    obtain rfl := once w t cut
    constructor
    · intro pieces joined
      have arrives : Arrives feed (dumpReply name prompt value) {} pieces :=
        arrives_feed (by simp [joined])
      exact await_of_arrives arrives (fun _ _ => take?_part_of_occursOnce once) whole
    · intro pieces flat
      have arrives : Arrives feedBytes (dumpReply name prompt value) {} pieces := by
        refine arrives_feedBytes (b := {}) flat fun none => ?_
        rw [none] at flat
        exact Utf8.eq_nil_of_encode flat.symm
      exact await_of_arrives arrives (fun _ _ => take?_part_of_occursOnce once) whole

/-- A text that is the prompt is read as a lone quote if the output is cut within it. -/
theorem await_cut_quoted :
    String.join ["s = \"main[1]", "\"\r\nmain[1] "] =
        .ofList (dumpReply "s" "main[1]" "\"main[1]\"".toList) ∧
      (await feed (dump "s" "main[1]") {} ["s = \"main[1]", "\"\r\nmain[1] "]).map (·.1) =
        some ⟨"", "s = \"main[1]"⟩ ∧
      ((({} : Buffer).feed "s = \"main[1]\"\r\nmain[1] ").take? (dump "s" "main[1]")).map (·.1) =
        some ⟨"", "s = \"main[1]\"\r\nmain[1]"⟩ ∧
      Session.dumpedValue "s".toList "main[1]".toList "s = \"main[1]".toList = .string "\"" ∧
      Session.dumpedValue "s".toList "main[1]".toList "s = \"main[1]\"\r\nmain[1]".toList =
        .string "main[1]" := by
  refine ⟨by decide, by decide +kernel, by decide +kernel, ?_, ?_⟩
  · have value := dumpedValue_answer (by decide : "s" ≠ "") (by decide +kernel)
      "main[1]".toList ['"']
    refine value.trans ?_
    rw [trim_eq_self (by decide), Value.read_of_scalar (by decide) (by decide) (by decide)]
    rfl
  · have value := dumpedValue_answer (by decide : "s" ≠ "") (by decide +kernel)
      "main[1]".toList "\"main[1]\"\r\n".toList
    have trimmed : trim "\"main[1]\"\r\n".toList = '"' :: ("main[1]".toList ++ ['"']) := by
      decide +kernel
    refine value.trans ?_
    rw [trimmed, Value.read_quoted]
    rfl

end Retrace.Buffer
