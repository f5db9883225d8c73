import Retrace.Proofs.Session.Launching

/-!
# Who holds the channels

A session holds the channel of a program only beside that of its debugger, after whatever calls.
Closing lets go of both, also when closing a channel fails, and so does a spawn that fails at any
point. What a session lets go of is closed. A spawn notes that the channels of the session before
are closed, and only then that it launches a process.
-/

namespace Retrace.Session

variable {C L : Type}

-- ---------------------------------------------------------------------------
-- What is held
-- ---------------------------------------------------------------------------

/-- A program that runs apart is held beside a debugger only. -/
def Paired (s : Session C L) : Prop :=
  s.hasTarget = true → s.debugger.isSome = true

/-- A session without any channel. -/
structure Empty (s : Session C L) : Prop where
  no_debugger : s.debugger = none
  no_target : s.target = none

theorem Empty.inactive [Channel C] {s : Session C L} (h : s.Empty) : s.isActive = false := by
  simp [isActive, h.no_debugger]

theorem Empty.paired {s : Session C L} (h : s.Empty) : s.Paired := by
  simp [Paired, hasTarget, h.no_target]

variable [Channel C]

theorem empty_close (s : Session C L) : s.close.Empty :=
  ⟨rfl, rfl⟩

variable [Launcher L C]

/-- Launches that succeed leave a debugger, and a program beside it if they should. -/
theorem Launching.held {s s₁ : Session C L} {args : List String} {apart : Bool} (empty : s.Empty)
    (h : Launching s args apart (.ok () s₁)) :
    s₁.debugger.isSome = true ∧ s₁.hasTarget = apart := by
  cases h with
  | direct launched => exact ⟨rfl, by simp [hasTarget, empty.no_target]⟩
  | apart launched listens attached => exact ⟨rfl, rfl⟩

theorem held_of_spawn {s s' : Session C L} {args : List String} {apart : Bool}
    (h : spawn args apart s = .ok () s') : s'.debugger.isSome = true ∧ s'.hasTarget = apart := by
  obtain ⟨s₁, debugger, launched, held, rfl⟩ := launched_of_spawn h
  have after := launched.held (empty_close s)
  exact ⟨held.trans after.1, after.2⟩

theorem empty_of_spawn {s s' : Session C L} {args : List String} {apart : Bool} {e : SessionError}
    (h : spawn args apart s = .error e s') : s'.Empty := by
  unfold spawn at h
  split at h
  · cases h
  · obtain ⟨-, rfl⟩ := EStateM.Result.error.inj h
    exact empty_close _

theorem Launching.retired {s : Session C L} {args : List String} {apart : Bool}
    {ends : EStateM.Result SessionError (Session C L) Unit} (h : Launching s args apart ends) :
    s.retired <+: (stateAfter ends).retired := by
  cases h with
  | deaf launched silent => exact List.prefix_append _ _
  | _ => exact List.prefix_rfl

/-- What was held before a spawn is closed after it. -/
theorem closed_of_spawn (args : List String) (apart : Bool) (s : Session C L) :
    s.retired ++ (s.target.map shut).toList ++ (s.debugger.map shut).toList <+:
      (stateAfter (spawn args apart s)).retired := by
  have closing (s₁ : Session C L) : s₁.retired <+: s₁.close.retired := by
    rw [close, List.append_assoc]
    exact List.prefix_append _ _
  rcases spawn_cases args apart s with
    ⟨e, s₁, launched, same⟩ | ⟨s₁, debugger, launched, held, ⟨prepared, same⟩ | ⟨e, prepared, same⟩⟩
  · rw [same]
    exact launched.retired.trans (closing s₁)
  · rw [same]
    exact launched.retired
  · rw [same]
    exact launched.retired.trans (closing { s₁ with debugger })

/-- A spawn that succeeds holds a debugger, and one that fails holds nothing. -/
theorem paired_of_spawn (args : List String) (apart : Bool) (s : Session C L) :
    (stateAfter (spawn args apart s)).Paired := by
  cases spawned : spawn args apart s with
  | ok a s' => exact fun _ => (held_of_spawn spawned).1
  | error e s' => exact (empty_of_spawn spawned).paired

/-- Every call keeps a program beside a debugger. -/
theorem paired_run (call : Call L) (s : Session C L) (paired : s.Paired) :
    (call.run s).2.Paired := by
  by_cases closing : call = .close
  · subst closing
    exact (empty_close s).paired
  cases spawning : call.spawns with
  | true =>
    obtain ⟨args, apart, rfl⟩ := Call.exists_of_spawns spawning
    rw [Call.run, Answer.answering_snd]
    exact paired_of_spawn args apart s
  | false =>
    obtain ⟨-, -, debugger, target⟩ := Call.run_holds spawning closing s
    unfold Paired hasTarget
    rw [debugger, target]
    exact paired

-- ---------------------------------------------------------------------------
-- What is closed
-- ---------------------------------------------------------------------------

/-- A channel that closing left behind. It is closed if channels keep to their law. -/
structure Shut (c : C) : Prop where
  closing : ∃ opened, stateAfter (Channel.close opened) = c
  closed : LawfulChannel C → Channel.closed c = true

omit [Launcher L C] in
theorem shut_shut (c : C) : Shut (shut c) where
  closing := ⟨c, rfl⟩
  closed lawful := lawful.closed_close c

omit [Launcher L C] in
theorem shut_map_shut (held : Option C) : ∀ c ∈ (held.map shut).toList, Shut c := by
  cases held with
  | none => exact List.forall_mem_nil _
  | some c => exact List.forall_mem_singleton.2 (shut_shut c)

/-- What a session let go of is closed, and its journal notes the closing of these channels and of no
others. A session stays in its directory. -/
structure Accounted (s : Session C L) : Prop where
  shut : ∀ c ∈ s.retired, Shut c
  noted : s.journal.channels.Perm s.retired
  still : s.journal.directories = []

section
omit [Launcher L C]
variable {s s' : Session C L}

theorem accounted_new (className : String) (config : Config) (launcher : L) :
    (new className config launcher : Session C L).Accounted where
  shut := List.forall_mem_nil _
  noted := .nil
  still := rfl

/-- Accounts stay right if what is let go of is closed and noted. -/
theorem Accounted.append (h : s.Accounted) {deeds : Journal C} {cs : List C}
    (retired : s'.retired = s.retired ++ cs) (journal : s'.journal = s.journal ++ deeds)
    (shut : ∀ c ∈ cs, Shut c) (noted : deeds.channels.Perm cs)
    (still : deeds.directories = []) : s'.Accounted where
  shut := by
    rw [retired]
    exact List.forall_mem_append.2 ⟨h.shut, shut⟩
  noted := by
    rw [retired, journal, Journal.channels_append]
    exact h.noted.append noted
  still := by rw [journal, Journal.directories_append, h.still, still, List.append_nil]

theorem Accounted.congr (h : s.Accounted) (retired : s'.retired = s.retired)
    (journal : s'.journal = s.journal) : s'.Accounted :=
  h.append (retired.trans (List.append_nil _).symm) (journal.trans (List.append_nil _).symm)
    (List.forall_mem_nil _) .nil rfl

theorem Accounted.close (h : s.Accounted) : s.close.Accounted := by
  refine h.append (List.append_assoc ..) rfl ?_ ?_ (Journal.directories_map_closed _)
  · exact List.forall_mem_append.2 ⟨shut_map_shut _, shut_map_shut _⟩
  · rw [Journal.channels_map_closed]
    exact List.perm_append_comm

theorem Accounted.step (h : s.Accounted) (modifier : StepModifier) (includeLocals : Bool) :
    (stateAfter (step modifier includeLocals s)).Accounted := by
  obtain ⟨result, debugger, trace, ends, -⟩ := s.step_ending modifier includeLocals
  rw [ends, stateAfter_ending]
  exact h.congr rfl rfl

theorem Accounted.locals (h : s.Accounted) : (stateAfter (locals s)).Accounted := by
  obtain ⟨result, debugger, ends, -⟩ := Dialogue.locals.whenActive.run_ending s
  rw [locals_eq_run, ends, stateAfter_ending]
  exact h.congr rfl rfl

theorem Accounted.sendTargetLine (h : s.Accounted) (line : String) :
    (s.sendTargetLine line).2.Accounted := by
  rw [sendTargetLine_snd]
  exact h.congr rfl rfl

/-- Without any channel in use, all that were opened are shut. -/
theorem Accounted.shut_channels (h : s.Accounted) (empty : s.Empty) : ∀ c ∈ s.channels, Shut c := by
  have retired : s.channels = s.retired := by simp [channels, empty.no_target, empty.no_debugger]
  rw [retired]
  exact h.shut

end

theorem Launching.accounted {s : Session C L} {args : List String} {apart : Bool}
    {ends : EStateM.Result SessionError (Session C L) Unit} (h : Launching s args apart ends)
    (start : s.Accounted) : (stateAfter ends).Accounted := by
  have launched {s' : Session C L} {deeds : Journal C} (retired : s'.retired = s.retired)
      (journal : s'.journal = s.journal ++ deeds) (quiet : deeds.channels = [])
      (still : deeds.directories = []) : s'.Accounted :=
    start.append (retired.trans (List.append_nil _).symm) journal (List.forall_mem_nil _)
      (quiet ▸ .nil) still
  cases h with
  | direct => exact launched rfl rfl rfl rfl
  | undone => exact launched rfl rfl rfl rfl
  | apart => exact launched rfl (List.append_assoc _ _ _) rfl rfl
  | unattached => exact launched rfl (List.append_assoc _ _ _) rfl rfl
  | @deaf target target' launcher e =>
    have let_go : ∀ c ∈ [shut target'], Shut c := List.forall_mem_singleton.2 (shut_shut target')
    refine start.append rfl (List.append_assoc _ _ _) let_go ?_ ?_
    · exact .refl _
    · rfl
  | targetless => exact launched rfl rfl rfl rfl

theorem Accounted.spawn {s : Session C L} (h : s.Accounted) (args : List String) (apart : Bool) :
    (stateAfter (spawn args apart s)).Accounted := by
  rcases spawn_cases args apart s with
    ⟨e, s₁, launched, same⟩ | ⟨s₁, debugger, launched, -, ⟨-, same⟩ | ⟨e, -, same⟩⟩
  all_goals
    have first : s₁.Accounted := launched.accounted h.close
    rw [same]
  · exact first.close
  · exact first.congr rfl rfl
  · exact Accounted.close (s := { s₁ with debugger }) (first.congr rfl rfl)

/-- Every call keeps the accounts. -/
theorem accounted_run (call : Call L) (s : Session C L) (h : s.Accounted) :
    (call.run s).2.Accounted := by
  by_cases closing : call = .close
  · subst closing
    exact h.close
  cases spawning : call.spawns with
  | true =>
    obtain ⟨args, apart, rfl⟩ := Call.exists_of_spawns spawning
    rw [Call.run, Answer.answering_snd]
    exact h.spawn args apart
  | false =>
    obtain ⟨retired, journal, -, -⟩ := Call.run_holds spawning closing s
    exact h.congr retired journal

-- ---------------------------------------------------------------------------
-- All calls
-- ---------------------------------------------------------------------------

theorem paired_after (calls : List (Call L)) {s : Session C L} (paired : s.Paired) :
    (after calls s).Paired :=
  after_keeps Paired (fun _ => True) (fun call s _ => paired_run call s) (fun _ _ => trivial) paired

theorem accounted_after (calls : List (Call L)) {s : Session C L} (h : s.Accounted) :
    (after calls s).Accounted :=
  after_keeps Accounted (fun _ => True) (fun call s _ => accounted_run call s) (fun _ _ => trivial) h

/-- After any calls of a new session: a program is held beside a debugger only, and all that the
session let go of is closed and noted. Closing, and a spawn that fails, leave an inactive session
without channels, all of whose channels are closed; a spawn that succeeds leaves a debugger, and a
program beside it if it should run apart. A spawn closes what was held before, and does so before it
launches anything: its journal goes on as that of closing does, and only then with a launch. -/
theorem channels_held (className : String) (config : Config) (launcher : L)
    (calls : List (Call L)) :
    let s : Session C L := after calls (new className config launcher)
    (s.hasTarget = true → s.debugger.isSome = true) ∧
    ((∀ c ∈ s.retired, Shut c) ∧ s.journal.channels.Perm s.retired) ∧
    (s.close.debugger = none ∧ s.close.target = none ∧ s.close.isActive = false ∧
      (∀ c ∈ s.close.channels, Shut c) ∧
      s.close.journal =
        s.journal ++ ((s.debugger.map shut).toList ++ (s.target.map shut).toList).map .closed) ∧
    ∀ args apart,
      (∀ s', spawn args apart s = .ok () s' → s'.debugger.isSome = true ∧ s'.hasTarget = apart) ∧
      (∀ e s', spawn args apart s = .error e s' →
        s'.debugger = none ∧ s'.target = none ∧ s'.isActive = false ∧
        ∀ c ∈ s'.channels, Shut c) ∧
      (s.retired ++ (s.target.map shut).toList ++ (s.debugger.map shut).toList <+:
        (stateAfter (spawn args apart s)).retired) ∧
      ∃ first deeds, Begun s.close (stateAfter (spawn args apart s)) args apart first deeds := by
  intro s
  have accounted : s.Accounted := accounted_after calls (accounted_new className config launcher)
  refine ⟨paired_after calls fun held => by simp [new, hasTarget] at held,
    ⟨accounted.shut, accounted.noted⟩,
    ⟨rfl, rfl, (empty_close s).inactive, accounted.close.shut_channels (empty_close s), rfl⟩,
    fun args apart => ⟨?_, ?_, ?_, ?_⟩⟩
  · exact fun s' spawned => held_of_spawn spawned
  · intro e s' failed
    have empty := empty_of_spawn failed
    have left : s'.Accounted := by
      have := accounted.spawn args apart
      rwa [failed] at this
    exact ⟨empty.no_debugger, empty.no_target, empty.inactive, left.shut_channels empty⟩
  · exact closed_of_spawn args apart s
  · exact begun_of_spawn args apart s

end Retrace.Session
