import HexeVoice.Voice.Sessions

/-!
# The log of a session

## The model

`Effect.after` reads the log of a runtime, with the number that the next session has at least and the
session that the log is in. What happens to a session happens between its start and its end; only the
wake election may accept a session that has just ended.

## What is proved

**`manager_refines`**: every run of the manager is, in each runtime, one of the session machine.
**`log_in_brackets`**: the log of each runtime can be read so, and the session that it is in is the active
one. **`others_only_end`**: an input that is no event of a runtime leaves the session
there as it is, or ends it.
-/

namespace HexeVoice.Voice

open HexeVoice.Library

/-! ### Brackets -/

/-- What the log is in after an entry, where that may come next. -/
def Effect.after (at' : ℕ × Option ℕ) : Effect → Option (ℕ × Option ℕ)
  | .sessionStarted serial =>
    if at'.2 = none ∧ at'.1 ≤ serial then some (serial + 1, some serial) else none
  | .sessionCleared serial => if at'.2 = some serial then some (at'.1, none) else none
  | .wakeAccepted .. => some at'
  | _ => if at'.2.isSome then some at' else none

def brackets (at' : ℕ × Option ℕ) (life : List Effect) : Option (ℕ × Option ℕ) :=
  life.foldlM Effect.after at'

/-- The log can be read, up to the active session. -/
def SessionView.InBrackets (n : ℕ) (w : SessionView) : Prop :=
  ∃ next ≤ n, brackets (0, none) w.life = some (next, w.serial)

theorem serial_of_session {w : SessionView} {s : SessionCore} (h : w.session = some s) :
    w.serial = some s.serial := by
  rw [SessionView.serial, h, Option.map_some]

/-- What an action notes belongs where the log is. -/
theorem brackets_notes {cfg : Config} {Q : Occasion → Prop} {n m next : ℕ} {w : SessionView}
    {a : SessionAction} (hnext : next ≤ n) (hle : n ≤ m) (hfresh : a.Fresh n m)
    (htakes : Takes cfg Q w a) :
    ∃ next' ≤ m, brackets (next, w.serial) (a.notes w.serial) = some (next', (w.act a).serial) := by
  cases hstart : a.isStart with
  | true =>
    cases a with
    | start session manual placementTest =>
      obtain ⟨o, -, hnone, -⟩ := htakes.permitted (by simp) (by simp)
      refine ⟨session.serial + 1, hfresh.2, ?_⟩
      rw [serial_of_session (SessionView.act_start w session manual placementTest).1]
      simp [SessionAction.notes, brackets, Effect.after, SessionView.serial, hnone,
        hnext.trans hfresh.1]
    | _ => cases hstart
  | false =>
    refine ⟨next, hnext.trans hle, ?_⟩
    cases hsession : w.session with
    | none =>
      have hafter : (w.act a).serial = none := by
        rw [SessionView.serial, (SessionView.act_of_none hsession hstart).1, Option.map_none]
      have hserial : w.serial = none := by rw [SessionView.serial, hsession, Option.map_none]
      rw [hafter, hserial]
      cases a with
      | start => cases hstart
      | cancel | decide | capture | taskDone | accept => rfl
      | audioEnd =>
        obtain ⟨o, -, rfl, session, -, hactive, -⟩ := htakes.permitted (by simp) (by simp)
        cases hsession.symm.trans (SessionRuntime.view_session hactive)
      | chunk | hear =>
        obtain ⟨o, -, rfl, session, payload, -, hactive, -⟩ := htakes.permitted (by simp) (by simp)
        cases hsession.symm.trans (SessionRuntime.view_session hactive)
      | openFollowup =>
        obtain ⟨o, -, hpending, s, hs, -⟩ := htakes.permitted (by simp) (by simp)
        cases hsession.symm.trans hs
    | some s =>
      rw [serial_of_session hsession, SessionView.serial, SessionView.act_session hsession hstart]
      cases a with
      | start => cases hstart
      | audioEnd audio path followup =>
        cases audio <;> cases followup <;>
          simp [SessionAction.notes, SessionAction.ends, brackets, Effect.after]
      | chunk c placement enrollment overheard =>
        cases c <;> cases enrollment <;>
          simp [SessionAction.notes, SessionAction.ends, brackets, Effect.after]
      | hear c overheard =>
        cases c <;> simp [SessionAction.notes, SessionAction.ends, brackets, Effect.after]
      | _ => simp [SessionAction.notes, SessionAction.ends, brackets, Effect.after]

/-- **The step lemma.** -/
theorem inBrackets_invariant (cfg : Config) (Q : Occasion → Prop) :
    SessionInvariant cfg Q SessionView.InBrackets where
  init := ⟨0, le_rfl, rfl⟩
  mono := by
    rintro n m w hle ⟨next, hnext, h⟩
    exact ⟨next, hnext.trans hle, h⟩
  act := by
    rintro n m w a ⟨next, hnext, h⟩ hle hfresh htakes
    obtain ⟨next', hnext', hnotes⟩ := brackets_notes hnext hle hfresh htakes
    refine ⟨next', hnext', ?_⟩
    rw [SessionView.act_life, brackets, List.foldlM_append]
    exact (congrArg (· >>= _) h).trans hnotes

/-! ### Whole runs -/

/-- **The manager refines the session machine**: what a run does to the sessions of a runtime is a run of
the machine, each action of which is permitted where it is taken and draws what nothing drew before. -/
theorem manager_refines (cfg : Config) (i : RuntimeId) (inputs : List Input) :
    ∃ as, ((run (step cfg) (.init cfg) inputs).sessions i).view = run SessionView.act {} as ∧
      AllSteps SessionView.act (Takes cfg fun _ => True) {} as ∧
      Draws 0 (run (step cfg) (.init cfg) inputs).shared.uuid as := by
  induction inputs using List.reverseRecOn with
  | nil => exact ⟨[], rfl, trivial, le_rfl⟩
  | append_singleton inputs input ih =>
    obtain ⟨as, hview, hactions, hdraws⟩ := ih
    obtain ⟨bs, hview', hactions', hdraws'⟩ := (step_does cfg (run_steady cfg inputs) input).actions i
    rw [run_append]
    refine ⟨as ++ bs, ?_, ?_, hdraws.append hdraws'⟩
    · rw [run_cons, run_nil, hview', hview, run_append]
    · rw [allSteps_append, ← hview]
      refine ⟨hactions, hactions'.mono fun w a ha => ?_⟩
      obtain ha | ha | ⟨o, -, hp⟩ := ha
      · exact .inl ha
      · exact .inr (.inl ha)
      · exact .inr (.inr ⟨o, trivial, hp⟩)

/-- **Sessions come one after the other**, each under a number of its own, and what happens to a session
happens between its start and its end. -/
theorem log_in_brackets (cfg : Config) (i : RuntimeId) (inputs : List Input) :
    ((run (step cfg) (.init cfg) inputs).sessions i).view.InBrackets
      (run (step cfg) (.init cfg) inputs).shared.uuid :=
  (inBrackets_invariant cfg fun _ => True).run
    (allSteps_of_forall (fun _ _ _ _ _ => trivial) _ inputs)

/-- **Where sessions rest.** -/
theorem sessions_rest (cfg : Config) (i : RuntimeId) (inputs : List Input) :
    ((run (step cfg) (.init cfg) inputs).sessions i).view.Sound :=
  (sound_invariant cfg fun _ => True).run (allSteps_of_forall (fun _ _ _ _ _ => trivial) _ inputs)

/-! ### The other runtimes -/

/-- The session of `w` is as it was, or it has ended. -/
def SessionView.OnlyEnds (w w' : SessionView) : Prop :=
  w'.session = w.session ∧ w'.buffer = w.buffer ∧ w'.pending = w.pending ∧ w'.life = w.life ∨
    w'.session = none ∧ w'.buffer = [] ∧ w'.pending = none ∧
      w'.life = w.life ++ (w.serial.map Effect.sessionCleared).toList

theorem SessionView.OnlyEnds.trans {a b c : SessionView} (hab : a.OnlyEnds b) (hbc : b.OnlyEnds c) :
    a.OnlyEnds c := by
  obtain ⟨hs, hb, hp, hl⟩ | ⟨hs, hb, hp, hl⟩ := hab <;>
    obtain ⟨hs', hb', hp', hl'⟩ | ⟨hs', hb', hp', hl'⟩ := hbc
  · exact .inl ⟨hs'.trans hs, hb'.trans hb, hp'.trans hp, hl'.trans hl⟩
  · exact .inr ⟨hs', hb', hp', by rw [hl', hl, serial, serial, hs]⟩
  · exact .inr ⟨hs'.trans hs, hb'.trans hb, hp'.trans hp, hl'.trans hl⟩
  · exact .inr ⟨hs', hb', hp', by simp [hl', hl, serial, hs]⟩

/-- **An input that is no event of the runtime leaves its session, or ends it**, whatever happened
before. -/
theorem others_only_end (cfg : Config) (inputs : List Input) (input : Input) (j : RuntimeId)
    (h : ∀ o, (run (step cfg) (.init cfg) inputs).occasion input ≠ some (j, o)) :
    ((run (step cfg) (.init cfg) inputs).sessions j).view.OnlyEnds
      ((step cfg (run (step cfg) (.init cfg) inputs) input).sessions j).view := by
  obtain ⟨as, hview, hactions, -⟩ := (step_does cfg (run_steady cfg inputs) input).actions j
  rw [hview]
  have hrefl : ∀ w : SessionView, w.OnlyEnds w := fun _ => .inl ⟨rfl, rfl, rfl, rfl⟩
  have htrans : ∀ a b c : SessionView, a.OnlyEnds b → b.OnlyEnds c → a.OnlyEnds c := fun _ _ _ => .trans
  refine run_rel hrefl htrans (fun w a (_ : True) ha => ⟨trivial, ?_⟩) trivial hactions
  obtain rfl | ⟨id, rfl⟩ | ⟨o, ho, -⟩ := ha
  · exact .inr ⟨rfl, rfl, rfl, w.act_life .cancel⟩
  · exact .inl ⟨rfl, rfl, rfl, rfl⟩
  · exact absurd ho (h o)

/-- When `kitchen` connects again, the session on its first connection ends. -/
theorem others_only_end_kitchen :
    let v := run (step {}) (.init {}) [kitchenConnects, kitchen .sessionStart]
    (v.sessions (.connection 0)).view.OnlyEnds
      ((step {} v kitchenConnects).sessions (.connection 0)).view :=
  others_only_end {} _ kitchenConnects (.connection 0) (by rintro o ⟨⟩)

end HexeVoice.Voice
