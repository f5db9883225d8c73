import Retrace.Proofs.Debugger.Shapes
import Retrace.Proofs.Text.Utf8

/-!
# Output that arrives in pieces

A channel to a real process looks for a match each time a piece of output has
arrived. For the patterns that end a step, a prompt, a header of variables or a
breakpoint this gives what one search in the whole output gives.
-/

namespace Retrace.Buffer

variable {α : Type}

/-- Looks for a match, and again after each piece that arrives, until there is one; the answer
tells what was found, the buffer after it, and the pieces that had not arrived by then. None if
the output ends without a match. -/
def await (feed : Buffer → α → Buffer) (p : Pattern) :
    Buffer → List α → Option (Expectation × Buffer × List α)
  | b, [] => (b.take? p).map fun (found, b) => (found, b, [])
  | b, piece :: pieces =>
    match b.take? p with
    | some (found, b) => some (found, b, piece :: pieces)
    | none => await feed p (feed b piece) pieces

-- ---------------------------------------------------------------------------
-- Later output does not change what was found
-- ---------------------------------------------------------------------------

variable {p : Pattern} {b b' : Buffer} {found : Expectation}

/-- What was found stays what a search finds when more text has arrived. -/
theorem take?_append (plain : p.expr.isPlain = true) (settled : p.expr.Settled)
    (h : b.take? p = some (found, b')) (t : List Char) :
    ({ b with pending := b.pending ++ t } : Buffer).take? p =
      some (found, { b' with pending := b'.pending ++ t }) := by
  obtain ⟨m, hm, taken⟩ := Option.map_eq_some_iff.1 h
  obtain ⟨before, x, picks, -⟩ := Pattern.exists_picks_of_find? hm
  obtain ⟨y, picks', text_eq, rest_eq⟩ := settled.picks_append plain picks t
  rw [take?_of_picks picks] at h
  obtain ⟨rfl, rfl⟩ := Prod.mk.inj (Option.some.inj h)
  rw [take?_of_picks (b := { b with pending := b.pending ++ t }) picks', text_eq, rest_eq]

theorem take?_unfinished {r : Expectation × Buffer} (h : b.take? p = some r) :
    r.2.unfinished = b.unfinished := by
  obtain ⟨m, -, rfl⟩ := Option.map_eq_some_iff.1 h
  rfl

/-- What is found does not depend on the bytes that wait. -/
theorem map_take? {γ : Type} (f : Expectation → List Char → γ) {c : Buffer}
    (h : b.pending = c.pending) :
    (b.take? p).map (fun r => f r.1 r.2.pending) = (c.take? p).map fun r => f r.1 r.2.pending := by
  simp [take?, h, Function.comp_def]

/-- Text in pieces is searched as the whole text is. -/
theorem await_feed (plain : p.expr.isPlain = true) (settled : p.expr.Settled) (b : Buffer)
    (pieces : List String) :
    (await feed p b pieces).map (fun r => (r.1, r.2.1.pending ++ (String.join r.2.2).toList)) =
      ((b.feed (String.join pieces)).take? p).map fun r => (r.1, r.2.pending) := by
  induction pieces generalizing b with
  | nil => simp [await, feed, Option.map_map, Function.comp_def]
  | cons piece pieces ih =>
    cases h : b.take? p with
    | some r =>
      have later : (b.feed (String.join (piece :: pieces))).take? p = _ :=
        take?_append plain settled h _
      rw [await, h, later]
      rfl
    | none =>
      have joined : (b.feed piece).feed (String.join pieces) =
          b.feed (String.join (piece :: pieces)) := by simp [feed]
      rw [await, h, ← joined]
      exact ih (b.feed piece)

/-- Bytes are read as the characters that are complete so far. -/
theorem feedBytes_of_encode {t : List Char} {bytes more : List UInt8}
    (h : b.unfinished ++ bytes ++ more = Text.Utf8.encode t) :
    ∃ u v w, t = u ++ v ∧ w ++ more = Text.Utf8.encode v ∧ (more = [] → v = []) ∧
      b.feedBytes bytes = ⟨b.pending ++ u, w⟩ := by
  obtain ⟨u, v, w, rfl, hw, done, hr⟩ := Text.Utf8.readable_of_encode h
  refine ⟨u, v, w, rfl, hw, done, ?_⟩
  by_cases complete : w = [] <;> simp [feedBytes, hr, complete]

/-- Bytes in pieces, cut also within characters, are searched as the whole text is. -/
theorem await_feedBytes (plain : p.expr.isPlain = true) (settled : p.expr.Settled)
    {t : List Char} {pieces : List (List UInt8)}
    (h : b.unfinished ++ pieces.flatten = Text.Utf8.encode t) (waiting : pieces = [] → t = []) :
    (await feedBytes p b pieces).map (fun r =>
        (r.1, Text.Utf8.encode r.2.1.pending ++ r.2.1.unfinished ++ r.2.2.flatten)) =
      (({ b with pending := b.pending ++ t } : Buffer).take? p).map fun r =>
        (r.1, Text.Utf8.encode r.2.pending) := by
  induction pieces generalizing b t with
  | nil =>
    obtain rfl := waiting rfl
    cases hr : b.take? p with
    | none => simp [await, hr]
    | some r =>
      have nothing : r.2.unfinished = [] := by
        rw [take?_unfinished hr]
        simpa [Text.Utf8.encode] using h
      simp [await, hr, nothing]
  | cons piece pieces ih =>
    cases hr : b.take? p with
    | some r =>
      have later := take?_append plain settled hr t
      have rest : r.2.unfinished ++ (piece :: pieces).flatten = Text.Utf8.encode t := by
        rw [take?_unfinished hr]
        exact h
      rw [await, hr, later]
      simp only [Option.map_some, List.append_assoc, rest, Text.Utf8.encode_append]
    | none =>
      obtain ⟨u, v, w, rfl, hw, done, fed⟩ :=
        feedBytes_of_encode (show b.unfinished ++ piece ++ pieces.flatten = _ by simpa using h)
      have later := ih (b := ⟨b.pending ++ u, w⟩) hw fun hp => done (by simp [hp])
      rw [await, hr]
      simp only [fed]
      rw [later]
      rw [List.append_assoc]
      exact map_take? (fun found rest => (found, Text.Utf8.encode rest)) rfl

/-- Whether text arrives as pieces of text or as bytes that may be cut within characters, awaiting
one of the patterns that end the answers of the debugger finds what one search in the whole text
finds, leaves over what that leaves over, and finds nothing exactly if that finds nothing. -/
theorem await_eq_take? {p : Pattern}
    (hp : p ∈ [Message.stepHeader, Message.prompt, Message.localVariablesHeader,
      Message.breakpointHit]) (t : String) :
    (∀ pieces : List String, String.join pieces = t →
      (await feed p {} pieces).map (fun (found, b, later) =>
          (found, b.pending ++ (String.join later).toList)) =
        ((({} : Buffer).feed t).take? p).map fun (found, b) => (found, b.pending)) ∧
    (∀ pieces : List (List UInt8), pieces.flatten = Text.Utf8.encode t.toList →
      (await feedBytes p {} pieces).map (fun (found, b, later) =>
          (found, Text.Utf8.encode b.pending ++ b.unfinished ++ later.flatten)) =
        (({} : Buffer).feed t |>.take? p).map fun (found, b) =>
          (found, Text.Utf8.encode b.pending)) := by
  have plain_settled : p.expr.isPlain = true ∧ p.expr.Settled := by
    simp only [List.mem_cons, List.not_mem_nil, or_false] at hp
    rcases hp with rfl | rfl | rfl | rfl
    · exact ⟨rfl, Message.stepHeader_settled⟩
    · exact ⟨rfl, Message.prompt_settled⟩
    · exact ⟨rfl, Expr.settled_lit _⟩
    · exact ⟨rfl, Expr.settled_lit _⟩
  obtain ⟨plain, settled⟩ := plain_settled
  constructor
  · rintro pieces rfl
    exact await_feed plain settled {} pieces
  · intro pieces h
    refine await_feedBytes plain settled (b := {}) (by simpa using h) fun none => ?_
    rw [none] at h
    exact Text.Utf8.eq_nil_of_encode h.symm

/-- A header that is cut within its title and within its line end is found whole. -/
theorem await_cut_header :
    Message.stepHeader ∈ [Message.stepHeader, Message.prompt, Message.localVariablesHeader,
      Message.breakpointHit] ∧
    (await feed Message.stepHeader {}
        ["> \r\nMethod entered: \r\nStep compl", "eted: \"thread=main\"\r", "\n7 "]).map
        (fun (found, b, later) => (found, b.pending ++ (String.join later).toList)) =
      some (⟨"> \r\n", "Method entered: \r\nStep completed: \"thread=main\"\r\n"⟩, "7 ".toList) :=
  ⟨by simp, ((await_eq_take? (by simp) _).1 _ rfl).trans (by decide +kernel)⟩

end Retrace.Buffer
