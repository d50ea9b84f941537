import HexeVoice.Voice.Sessions

/-!
# Follow-up timers

A follow-up window is opened with a timer, which cancels the session if nobody answers. The
timer looks for a session of its id with a follow-up that is pending, and a session keeps its
id over all its turns.

## What is proved

`answered_timeout`: the timer of a window that was answered does nothing, as long as the
answer to a window does not ask a follow-up itself.
-/

namespace HexeVoice.Voice

open HexeVoice.Library

/-! ### Answered windows -/

/-- An `audio.end` was handled since the window with the timer `task` was opened. -/
def Answered (task : ℕ) (trace : List Effect) : Prop :=
  ∃ before after, trace = before ++ .followupOpened task :: after ∧ .audioEndHandled ∈ after

namespace Answered

variable {task : ℕ} {trace es : List Effect}

theorem opened (h : Answered task trace) : .followupOpened task ∈ trace := by
  obtain ⟨before, after, rfl, -⟩ := h
  exact List.mem_append_right _ List.mem_cons_self

/-- Only an `audio.end` answers a window. -/
theorem of_append (h : Answered task (trace ++ es)) (hes : .audioEndHandled ∉ es) :
    Answered task trace := by
  obtain ⟨before, after, heq, hend⟩ := h
  rcases List.append_eq_append_iff.mp heq with ⟨m, -, rfl⟩ | ⟨m, rfl, hm⟩
  · exact absurd (List.mem_append_right _ (List.mem_cons_of_mem _ hend)) hes
  · cases m with
    | nil => exact absurd (List.nil_append es ▸ hm ▸ List.mem_cons_of_mem _ hend) hes
    | cons e m =>
      obtain ⟨rfl, rfl⟩ : .followupOpened task = e ∧ after = m ++ es := by simpa using hm
      refine ⟨before, m, rfl, ?_⟩
      exact (List.mem_append.mp hend).resolve_right hes

theorem life (h : Answered task trace) : Answered task (trace.filter (·.isLife)) := by
  obtain ⟨before, after, rfl, hend⟩ := h
  refine ⟨before.filter (·.isLife), after.filter (·.isLife), ?_, ?_⟩
  · simp [Effect.isLife]
  · exact List.mem_filter.mpr ⟨hend, rfl⟩

end Answered

/-! ### The condition -/

/-- The event does not have a turn ask a follow-up while the timer of a window runs. -/
def Occasion.asksAfterTimeout (cfg : Config) (o : Occasion) : Bool :=
  o.audioEndSession.all fun s => !o.asksFollowup cfg s || o.desk.self.loopTasks.isEmpty

/-! ### The invariant -/

/-- The timers that run are those of windows nobody answered. -/
structure SessionView.Awaits (n : ℕ) (w : SessionView) : Prop where
  opened_lt : ∀ task, .followupOpened task ∈ w.life → task < n
  unanswered : ∀ t ∈ w.loopTasks, ¬ Answered t.id w.life

namespace SessionView.Awaits

variable {cfg : Config} {n m : ℕ} {w : SessionView} {a : SessionAction}

/-- No window is opened, and none that still has its timer is answered. -/
theorem quiet {w' : SessionView} (h : w.Awaits n) (hle : n ≤ m) (es : List Effect)
    (hlife : w'.life = w.life ++ es) (hopened : ∀ task, .followupOpened task ∉ es)
    (hloop : w'.loopTasks = [] ∨ .audioEndHandled ∉ es ∧ w'.loopTasks ⊆ w.loopTasks) :
    w'.Awaits m where
  opened_lt := by
    intro task htask
    rw [hlife] at htask
    exact (h.opened_lt task ((List.mem_append.mp htask).resolve_right (hopened task))).trans_le hle
  unanswered := by
    intro t ht hanswered
    rw [hlife] at hanswered
    rcases hloop with hnone | ⟨hend, hsub⟩
    · simp [hnone] at ht
    · exact h.unanswered t (hsub ht) (hanswered.of_append hend)

end SessionView.Awaits

section act

variable {cfg : Config} {n m : ℕ} {w : SessionView} {a : SessionAction}

/-- The event loop holds no timer once the session's own is cancelled. -/
theorem cancelTask_loopTasks (h : ∀ t ∈ w.loopTasks, w.task = some t.id) :
    w.cancelTask.loopTasks = [] := by
  refine List.filter_eq_nil_iff.mpr fun t ht => ?_
  simp [h t ht]

/-- A turn that asks a follow-up finds no timer running. -/
theorem loopTasks_of_asksAfterTimeout {o : Occasion} {session : VoiceSessionSnapshot}
    (hok : o.asksAfterTimeout cfg = true) (hend : o.audioEndSession = some session)
    (hasks : o.asksFollowup cfg session = true) : o.desk.self.view.loopTasks = [] := by
  simp only [Occasion.asksAfterTimeout, hend, Option.all_some, hasks, Bool.not_true,
    Bool.false_or, List.isEmpty_iff] at hok
  exact hok

/-- An action after which no timer runs. -/
theorem SessionView.Awaits.silent (h : w.Awaits n) (hle : n ≤ m)
    (hopened : ∀ task, .followupOpened task ∉ a.notes w.serial)
    (hloop : (w.act a).loopTasks = []) : (w.act a).Awaits m :=
  h.quiet hle _ (w.act_life a) hopened (.inl hloop)

/-- An action that starts no timer, and answers no window. -/
theorem SessionView.Awaits.keep (h : w.Awaits n) (hle : n ≤ m)
    (hopened : ∀ task, .followupOpened task ∉ a.notes w.serial)
    (hend : .audioEndHandled ∉ a.notes w.serial)
    (hloop : (w.act a).loopTasks ⊆ w.loopTasks) : (w.act a).Awaits m :=
  h.quiet hle _ (w.act_life a) hopened (.inr ⟨hend, hloop⟩)

theorem awaits_act (hsound : w.Sound) (h : w.Awaits n) (hle : n ≤ m) (hfresh : a.Fresh n m)
    (htakes : Takes cfg (fun o => o.asksAfterTimeout cfg = true) w a) : (w.act a).Awaits m := by
  cases a with
  | cancel =>
    refine h.silent hle (by simp [SessionAction.notes]) ?_
    exact cancelTask_loopTasks (w := w.move .cancelled) hsound.tasks
  | audioEnd audio path followup =>
    obtain ⟨o, hok, rfl, session, hend, -, hpath, haudio, hasks⟩ :=
      htakes.permitted (by simp) (by simp)
    refine h.silent hle ?_ ?_
    · cases followup <;> simp [SessionAction.notes]
    · cases followup with
      | false =>
        have htasks : ∀ t ∈ ((o.desk.self.view.note .audioEndHandled).follow path).loopTasks,
            ((o.desk.self.view.note .audioEndHandled).follow path).task = some t.id := by
          simpa using hsound.tasks
        exact cancelTask_loopTasks htasks
      | true =>
        obtain ⟨audio, haudio'⟩ := Option.isSome_iff_exists.mp hpath.followup_eq.1
        have hfollowup : o.asksFollowup cfg session = true := by
          simp [Occasion.asksFollowup, (haudio audio haudio').1, hasks rfl]
        rw [← loopTasks_of_asksAfterTimeout hok hend hfollowup]
        simp [SessionView.act, SessionView.finish]
  | start session manual placementTest =>
    refine h.keep hle (by simp [SessionAction.notes]) (by simp [SessionAction.notes]) ?_
    cases manual <;> exact List.Subset.refl _
  | chunk chunk placement enrollment overheard =>
    refine h.keep hle ?_ ?_ (by simp [SessionView.act])
    · cases enrollment <;> simp [SessionAction.notes]
    · cases enrollment <;> simp [SessionAction.notes]
  | hear | capture =>
    exact h.keep hle (by simp [SessionAction.notes]) (by simp [SessionAction.notes])
      (by simp [SessionView.act])
  | decide | accept =>
    exact h.keep hle (by simp [SessionAction.notes]) (by simp [SessionAction.notes])
      (List.Subset.refl _)
  | taskDone id =>
    exact h.keep hle (by simp [SessionAction.notes]) (by simp [SessionAction.notes])
      (List.filter_subset_self _)
  | openFollowup task =>
    have hlife : (w.act (.openFollowup task)).life = w.life ++ [.followupOpened task.id] :=
      w.act_life _
    constructor
    · intro id hid
      rw [hlife, List.mem_append, List.mem_singleton] at hid
      rcases hid with hid | hid
      · exact (h.opened_lt id hid).trans_le hle
      · cases hid
        exact hfresh.2
    · -- the only timer is the new one, and its window has just been opened
      intro t ht hanswered
      have hloop : (w.act (.openFollowup task)).loopTasks = [task] :=
        congrArg (· ++ [task]) (cancelTask_loopTasks hsound.tasks)
      rw [hloop, List.mem_singleton] at ht
      rw [hlife, ht] at hanswered
      have hopened := h.opened_lt _ (hanswered.of_append (by simp)).opened
      exact absurd hfresh.1 (Nat.not_le.mpr hopened)

theorem awaits_invariant (cfg : Config) :
    SessionInvariant cfg (fun o => o.asksAfterTimeout cfg = true) fun n w => w.Sound ∧ w.Awaits n :=
  (sound_invariant cfg _).and ⟨by simp, by simp⟩
    (fun hle h => ⟨fun task htask => (h.opened_lt task htask).trans_le hle, h.unanswered⟩)
    awaits_act

end act

/-- A timer that the event loop does not hold does nothing. -/
theorem step_followupTimeout_of_forall_ne {cfg : Config} {v : VoiceSessionManager} {i : RuntimeId}
    {task : ℕ} (h : ∀ t ∈ (v.sessions i).loopTasks, t.id ≠ task) :
    step cfg v (.followupTimeout i task) = v := by
  have hfind : (v.sessions i).loopTasks.find? (fun t => t.id = task) = none :=
    List.find?_eq_none.mpr (by simpa using h)
  refine step_of_returns (Q := fun v' => v' = v) ?_
  unfold handleInput followupTimeout
  rw [returns_bind, returns_get, hfind, returns_pure]

/-- **A timer only ends its own unanswered window.** -/
theorem answered_timeout (cfg : Config) (i : RuntimeId) (inputs : List Input)
    (hok : AllSteps (step cfg) (Meets (fun o => o.asksAfterTimeout cfg = true) i) (.init cfg) inputs)
    (task : ℕ) (hanswered : Answered task ((run (step cfg) (.init cfg) inputs).sessions i).trace) :
    step cfg (run (step cfg) (.init cfg) inputs) (.followupTimeout i task) = run (step cfg) (.init cfg) inputs := by
  obtain ⟨-, hawaits⟩ := (awaits_invariant cfg).run hok
  refine step_followupTimeout_of_forall_ne fun t ht heq => ?_
  exact hawaits.unanswered t ht (heq ▸ hanswered.life)

/-- An utterance whose prompt is played, and the answer to it. -/
def answer (ans : PipelineAnswers) : List Input :=
  utterance asksAgain ++ [kitchen .ttsPlaybackCompleted, kitchen .audioChunk (chunkPayload "AwQF"),
    kitchen .audioEnd {} ans]

theorem answered_timeout_answer :
    step {} (run (step {}) (.init {}) (answer {})) (.followupTimeout (.connection 0) 3) =
      run (step {}) (.init {}) (answer {}) :=
  let trace := ((run (step {}) (.init {}) (answer {})).sessions (.connection 0)).trace
  have hanswered : Answered 3 trace :=
    ⟨trace.take 6, trace.drop 7, by decide +kernel, by decide +kernel⟩
  answered_timeout {} (.connection 0) (answer {}) (by decide +kernel) 3 hanswered

/-- If the answer asks a follow-up, the timer of the window it was given in cancels the session
while that prompt plays. -/
theorem answered_timeout_cancels :
    ¬ ∀ task, Answered task ((run (step {}) (.init {}) (answer asksAgain)).sessions (.connection 0)).trace →
      step {} (run (step {}) (.init {}) (answer asksAgain)) (.followupTimeout (.connection 0) task) =
        run (step {}) (.init {}) (answer asksAgain) := by
  intro h
  set trace := ((run (step {}) (.init {}) (answer asksAgain)).sessions (.connection 0)).trace
  have hanswered : Answered 3 trace :=
    ⟨trace.take 6, trace.drop 7, by decide +kernel, by decide +kernel⟩
  have hsession := congrArg (fun v => (v.sessions (.connection 0)).activeSession.isSome)
    (h 3 hanswered)
  exact absurd hsession (by decide +kernel)

end HexeVoice.Voice
