import Retrace.Proofs.Debugger.Misread

/-!
# Stops that are accepted

A stop is taken whole, with the listing and the prompt, if the first header in it
is accepted as one of a stop, whatever is read in it.
-/

namespace Retrace.Printed

open Message

variable {s : Stop}

/-- The first header in the answer to a step is one of a stop. -/
def Stop.Accepted (s : Stop) : Prop :=
  ∃ m, stepHeader.find? s.text = some m ∧ Session.isStop m.text = true

instance (s : Stop) : Decidable s.Accepted :=
  decidable_of_iff ((stepHeader.find? s.text).any fun m => Session.isStop m.text) (by
    simp [Stop.Accepted, Option.any_eq_true])

/-- A header is accepted if the value that is returned has no comma, and no exception is announced. -/
theorem accepted_of_plain (plain : s.title.Plain)
    (unexceptional : ¬ exceptionMarker.toList <:+: s.header) : s.Accepted := by
  obtain ⟨m, hm, taken⟩ := Option.map_eq_some_iff.1
    (take?_header calm_lead plain.spaced (b := { pending := s.text }) (text_eq s))
  refine ⟨m, hm, ?_⟩
  have matched : String.ofList m.text = String.ofList s.header :=
    congrArg (fun r => r.1.matched) taken
  rw [String.ofList_injective matched]
  exact isStop_header plain unexceptional

/-- Behind a header that is found there is the listing, or only the end of it. -/
theorem rest_of_take?_header {b b' : Buffer} {header : Expectation} (hb : b.pending = s.text)
    (found : b.take? stepHeader = some (header, b')) :
    b'.pending = s.sourceLine ++ ("\r\n\r\n".toList ++ prompt) ∨
      b'.pending = "\r\n".toList ++ prompt := by
  by_cases spaced : s.title.Spaced
  · rw [take?_header calm_lead spaced hb] at found
    obtain ⟨-, rfl⟩ := Prod.mk.inj (Option.some.inj found)
    exact .inl rfl
  · -- Only a method exit can have a header that is not found where it stands.
    have front : s.title.front = [] := by
      cases ht : s.title with
      | exited => rfl
      | _ => exact absurd (fun value hv => by simp [ht, Title.returned?] at hv) spaced
    have cut : header.before.toList ++ (header.matched.toList ++ b'.pending) = s.text := by
      rw [← hb, Buffer.text_of_take? found, List.append_assoc]
    obtain ⟨-, -, -, ⟨-, rest_eq⟩ | rest_eq⟩ :=
      header_within calm_lead isPrompt_prompt front (covers_stepHeader.1 (Buffer.covers_of_take? rfl found)) cut
    · exact .inl rest_eq
    · exact .inr rest_eq

/-- After a header that is found there is a prompt, and then nothing waits. -/
theorem exists_listing {b b' : Buffer} {header : Expectation} (hb : b.pending = s.text)
    (found : b.take? stepHeader = some (header, b')) :
    ∃ listing, b'.take? Message.prompt = some (listing, { b' with pending := [] }) := by
  rcases rest_of_take?_header hb found with rest_eq | rest_eq
  · exact ⟨_, take?_listing s isPrompt_prompt rest_eq⟩
  · have lines : ∀ l ∈ [['\r']], '\n' ∉ l ∧ Unprompted l := by
      intro l hl
      rw [List.mem_singleton.1 hl]
      exact ⟨by decide, unprompted_return⟩
    exact ⟨_, take?_prompt isPrompt_prompt lines rest_eq⟩

/-- A stop that is accepted is taken whole. -/
theorem Stop.Accepted.exists_stop? (h : s.Accepted) {b : Buffer} (hb : b.pending = s.text) :
    ∃ event, b.stop? = some (event, { b with pending := [] }) := by
  obtain ⟨m, hm, accepted⟩ := h
  have found : b.take? stepHeader =
      some (⟨.ofList (b.pending.take m.start), .ofList m.text⟩, { b with pending := m.rest }) := by
    rw [Buffer.take?, hb, hm]
    rfl
  obtain ⟨listing, prompted⟩ := exists_listing hb found
  exact ⟨_, Buffer.stop?_eq_some_iff.2
    ⟨_, _, listing, found, by rw [String.toList_ofList]; exact accepted, prompted, rfl⟩⟩

/-- In the answer to a step whose stop is not accepted there is no header, or it is refused. -/
theorem refused_of_not_accepted (h : ¬ s.Accepted) {b : Buffer} (hb : b.pending = s.text) :
    b.take? stepHeader = none ∨ ∃ header b', b.take? stepHeader = some (header, b') ∧
      Session.isStop header.matched.toList = false := by
  cases found : b.take? stepHeader with
  | none => exact .inl rfl
  | some r =>
    refine .inr ⟨r.1, r.2, rfl, Bool.eq_false_iff.2 fun accepted => h ?_⟩
    obtain ⟨m, hm, rfl⟩ := Option.map_eq_some_iff.1 found
    exact ⟨m, hb ▸ hm, by simpa using accepted⟩

end Retrace.Printed
