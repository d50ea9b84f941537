import HexeVoice.Migration.Bundle

/-!
# An import is all or nothing

## The model

A section of a bundle is absent, saved or refused (`SectionOutcome`). `importsWhole` says of a
request that no section is saved before another is refused.

## What is proved

**`import_all_or_nothing`**: an import that raises leaves the files as they were exactly if no
section is saved before another is refused, and what an import returns a dry run returned before.
**`registry_refused_after_state`**: the onboarding state is saved and the endpoint registry refused.
-/

namespace HexeVoice.Migration

open HexeVoice.Library HexeVoice.Onboarding Json

variable {key : String}

/-- What comes of a section. -/
inductive SectionOutcome where
  | absent
  | saved
  | refused
  deriving DecidableEq

/-- What comes of the section under the key, where what is `ready` can be saved. -/
def sectionOutcome {α : Type} (stateFiles : JsonObject) (key : String)
    (check : Json → Except MigrationError α) (ready : Bool) : SectionOutcome :=
  match item stateFiles key with
  | .null => .absent
  | payload =>
    match check payload with
    | .ok _ => if ready then .saved else .refused
    | .error _ => .refused

/-- No section is saved before another is refused. -/
def refusedFirst : List SectionOutcome → Bool
  | [] => true
  | .absent :: outcomes => refusedFirst outcomes
  | .refused :: _ => true
  | .saved :: outcomes => outcomes.all (· ≠ .refused)

/-- The onboarding state can be loaded. -/
def StoreFile.loads {α : Type} : StoreFile α → Bool
  | .invalid => false
  | _ => true

section

variable (py : Python) (floatOf : String → Option PyFloat) (pydantic : Pydantic)
  {ρ ι : Type} (registryModel : PydanticModel ρ) (intentModel : PydanticModel ι)

/-- What comes of the sections, in the order of the import. The provider settings are merged into
the onboarding state, which has to be there to be loaded. -/
def sectionOutcomes (request : NodeMigrationImportRequest) (onboarding : StoreFile PersistedOnboardingState)
    (stateFiles : JsonObject) : List SectionOutcome :=
  let state := sectionOutcome stateFiles "onboarding_state" (checkOnboardingState pydantic request) true
  let loads := state = .saved || onboarding.loads
  [state,
    sectionOutcome stateFiles "endpoint_registry" (validated ∘ registryModel.modelValidate) true,
    sectionOutcome stateFiles "voice_intents" (validated ∘ intentModel.modelValidate) true,
    sectionOutcome stateFiles "voice_tts_settings" checkTtsSettings true,
    sectionOutcome stateFiles "voice_tts_provider_settings" (validateTtsProviderSettings py) loads,
    sectionOutcome stateFiles "voice_stt_settings" (validateSttSettings py) loads,
    sectionOutcome stateFiles "voice_wake_settings" (validateWakeSettings py floatOf) loads]

/-- No section of the bundle is saved before another is refused. -/
def importsWhole (request : NodeMigrationImportRequest)
    (onboarding : StoreFile PersistedOnboardingState) : Bool :=
  match stateFilesOf request.bundle with
  | .error _ => true
  | .ok stateFiles =>
    refusedFirst
      (sectionOutcomes py floatOf pydantic registryModel intentModel request onboarding stateFiles)

end

/-! ### Sections one after the other -/

section steps

variable {ρ ι : Type}
variable {outcomes : List SectionOutcome}

/-- A section, as the import and as the plan take it. -/
structure SectionStep (ρ ι : Type) where
  key : String
  act : NodeMigrationImportResponse → StoresM ρ ι NodeMigrationImportResponse
  plan : NodeMigrationImportResponse → Except MigrationError NodeMigrationImportResponse

/-- The import and the plan of a section come out as the outcome says. -/
def SectionStep.ComesOut (step : SectionStep ρ ι) (pre post : Stores ρ ι → Prop) :
    SectionOutcome → Prop
  | .absent => (∀ r s, pre s → step.act r s = .ok r s ∧ post s) ∧ ∀ r, step.plan r = .ok r
  | .saved =>
    (∀ r s, pre s → ∃ r' s', step.act r s = .ok r' s' ∧ post s' ∧
      s.written.length < s'.written.length ∧
      r'.filesImported = r.filesImported ++ [step.key]) ∧
    ∀ r, ∃ r', step.plan r = .ok r' ∧ r'.filesImported = r.filesImported ++ [step.key]
  | .refused => ∀ r s, pre s → ∃ e, step.act r s = .error e s

/-- The steps come out as the outcomes say, one after the other. -/
inductive ComeOut : (Stores ρ ι → Prop) → List (SectionStep ρ ι) → List SectionOutcome → Prop
  | nil (pre : Stores ρ ι → Prop) : ComeOut pre [] []
  | cons {pre : Stores ρ ι → Prop} (post : Stores ρ ι → Prop) {step : SectionStep ρ ι} {steps : List (SectionStep ρ ι)}
      {outcome : SectionOutcome} {outcomes : List SectionOutcome}
      (first : step.ComesOut pre post outcome) (rest : ComeOut post steps outcomes) :
      ComeOut pre (step :: steps) (outcome :: outcomes)

/-- The import of the sections. -/
def actAll (steps : List (SectionStep ρ ι)) (r : NodeMigrationImportResponse) :
    StoresM ρ ι NodeMigrationImportResponse := steps.foldlM (fun r step => step.act r) r

/-- The plan of the sections. -/
def planAll (steps : List (SectionStep ρ ι)) (r : NodeMigrationImportResponse) :
    Except MigrationError NodeMigrationImportResponse := steps.foldlM (fun r step => step.plan r) r

/-- The names of the files that are saved. -/
def savedKeys : List (SectionStep ρ ι) → List SectionOutcome → List String
  | step :: steps, .saved :: outcomes => step.key :: savedKeys steps outcomes
  | _ :: steps, _ :: outcomes => savedKeys steps outcomes
  | _, _ => []

theorem bind_run_ok {α β : Type} {c : StoresM ρ ι α} {f : α → StoresM ρ ι β} {s s' : Stores ρ ι}
    {a : α} (h : c s = .ok a s') : (c >>= f) s = f a s' := by
  show EStateM.bind c f s = _
  rw [EStateM.bind, h]

theorem bind_run_error {α β : Type} {c : StoresM ρ ι α} {f : α → StoresM ρ ι β}
    {s s' : Stores ρ ι} {e : MigrationError} (h : c s = .error e s') :
    (c >>= f) s = .error e s' := by
  show EStateM.bind c f s = _
  rw [EStateM.bind, h]

/-- Where nothing is refused, all sections are saved that are there. -/
theorem ComeOut.accepted {pre : Stores ρ ι → Prop} {steps : List (SectionStep ρ ι)}
    (h : ComeOut pre steps outcomes) (haccepted : .refused ∉ outcomes) :
    (∀ r s, pre s → ∃ r' s', actAll steps r s = .ok r' s' ∧
      s.written.length ≤ s'.written.length ∧ (savedKeys steps outcomes = [] → s' = s) ∧
      r'.filesImported = r.filesImported ++ savedKeys steps outcomes) ∧
    ∀ r, ∃ r', planAll steps r = .ok r' ∧
      r'.filesImported = r.filesImported ++ savedKeys steps outcomes := by
  induction h with
  | nil pre =>
    exact ⟨fun r s _ => ⟨r, s, rfl, le_rfl, fun _ => rfl, (List.append_nil _).symm⟩,
      fun r => ⟨r, rfl, (List.append_nil _).symm⟩⟩
  | @cons pre post step steps outcome outcomes first rest ih =>
    obtain ⟨hact, hplan⟩ := ih fun h => haccepted (List.mem_cons_of_mem _ h)
    cases outcome with
    | refused => exact absurd List.mem_cons_self haccepted
    | absent =>
      refine ⟨fun r s hs => ?_, fun r => ?_⟩
      · obtain ⟨hrun, hpost⟩ := first.1 r s hs
        rw [show actAll (step :: steps) r s = _ from bind_run_ok hrun]
        exact hact r s hpost
      · rw [show planAll (step :: steps) r = step.plan r >>= planAll steps from rfl, first.2 r]
        exact hplan r
    | saved =>
      refine ⟨fun r s hs => ?_, fun r => ?_⟩
      · obtain ⟨r', s', hrun, hpost, hwritten, hfiles⟩ := first.1 r s hs
        obtain ⟨r'', s'', hrun', hwritten', -, hfiles'⟩ := hact r' s' hpost
        rw [show actAll (step :: steps) r s = _ from bind_run_ok hrun]
        refine ⟨r'', s'', hrun', by omega, fun hnone => by simp [savedKeys] at hnone, ?_⟩
        rw [hfiles', hfiles, List.append_assoc]
        rfl
      · obtain ⟨r', hrun, hfiles⟩ := first.2 r
        obtain ⟨r'', hrun', hfiles'⟩ := hplan r'
        rw [show planAll (step :: steps) r = step.plan r >>= planAll steps from rfl, hrun]
        refine ⟨r'', hrun', ?_⟩
        rw [hfiles', hfiles, List.append_assoc]
        rfl

theorem refusedFirst_of_not_mem (h : .refused ∉ outcomes) :
    refusedFirst outcomes = true := by
  induction outcomes with
  | nil => rfl
  | cons outcome outcomes ih =>
    rw [List.mem_cons, not_or] at h
    cases outcome with
    | absent => exact ih h.2
    | refused => exact absurd rfl h.1
    | saved =>
      rw [refusedFirst, List.all_eq_true]
      intro outcome hmem
      simpa using fun heq : outcome = .refused => h.2 (heq ▸ hmem)

/-- Where something is refused, what was saved before stays saved. -/
theorem ComeOut.refused {pre : Stores ρ ι → Prop} {steps : List (SectionStep ρ ι)}
    (h : ComeOut pre steps outcomes)
    (hrefused : .refused ∈ outcomes) (r : NodeMigrationImportResponse) (s : Stores ρ ι)
    (hs : pre s) : ∃ e s', actAll steps r s = .error e s' ∧
      s.written.length ≤ s'.written.length ∧ (refusedFirst outcomes = true → s' = s) ∧
      (refusedFirst outcomes = false → s.written.length < s'.written.length) := by
  induction h generalizing r s with
  | nil => exact absurd hrefused List.not_mem_nil
  | @cons pre post step steps outcome outcomes first rest ih =>
    cases outcome with
    | refused =>
      obtain ⟨e, hrun⟩ := first r s hs
      exact ⟨e, s, bind_run_error hrun, le_rfl, fun _ => rfl, fun h => nomatch h⟩
    | absent =>
      obtain ⟨hrun, hpost⟩ := first.1 r s hs
      rw [show actAll (step :: steps) r s = _ from bind_run_ok hrun]
      exact ih (by simpa using hrefused) r s hpost
    | saved =>
      obtain ⟨r', s', hrun, hpost, hwritten, -⟩ := first.1 r s hs
      have hlater : .refused ∈ outcomes := by simpa using hrefused
      obtain ⟨e, s'', hrun', hwritten', -⟩ := ih hlater r' s' hpost
      rw [show actAll (step :: steps) r s = _ from bind_run_ok hrun]
      refine ⟨e, s'', hrun', by omega, fun hfirst => ?_, fun _ => by omega⟩
      rw [refusedFirst, List.all_eq_true] at hfirst
      have hne := hfirst _ hlater
      simp at hne

theorem importSection_of_ne_null {α : Type} {stateFiles : JsonObject}
    (h : item stateFiles key ≠ .null) (check : Json → Except MigrationError α)
    (save : α → NodeMigrationImportResponse → StoresM ρ ι NodeMigrationImportResponse)
    (r : NodeMigrationImportResponse) : importSection stateFiles key check save r =
      match check (item stateFiles key) with
      | .ok value => save value r
      | .error error => throw error := by
  unfold importSection
  cases hitem : item stateFiles key <;> first | rfl | exact absurd hitem h

/-- A section that is saved where it is ready comes out as `sectionOutcome` says. -/
theorem section_comesOut {α : Type} {stateFiles : JsonObject}
    {check : Json → Except MigrationError α} {ready : Bool} {pre post : Stores ρ ι → Prop}
    {save : α → NodeMigrationImportResponse → StoresM ρ ι NodeMigrationImportResponse}
    {add : α → NodeMigrationImportResponse → NodeMigrationImportResponse}
    (hkeep : item stateFiles key = .null → ∀ s, pre s → post s)
    (hsave : ready = true → ∀ value, check (item stateFiles key) = .ok value → ∀ r s, pre s →
      ∃ r' s', save value r s = .ok r' s' ∧ post s' ∧ s.written.length < s'.written.length ∧
        r'.filesImported = r.filesImported ++ [key])
    (hfail : ready = false → ∀ value r s, pre s → ∃ e, save value r s = .error e s)
    (hadd : ∀ value r, (add value r).filesImported = r.filesImported ++ [key]) :
    SectionStep.ComesOut ⟨key, importSection stateFiles key check save,
      planSection stateFiles key check add⟩ pre post (sectionOutcome stateFiles key check ready) := by
  by_cases hnull : item stateFiles key = .null
  · have houtcome : sectionOutcome stateFiles key check ready = .absent := by
      rw [sectionOutcome, hnull]
    rw [houtcome]
    refine ⟨fun r s hs => ⟨?_, hkeep hnull s hs⟩, fun r => ?_⟩
    · simp only [importSection, hnull]
      rfl
    · simp only [planSection, hnull]
  · have hact := importSection_of_ne_null hnull check save
    have hplan (r : NodeMigrationImportResponse) : planSection stateFiles key check add r =
        (check (item stateFiles key)).map fun value => add value r := by
      unfold planSection
      cases h : item stateFiles key <;> first | rfl | exact absurd h hnull
    have houtcome : sectionOutcome stateFiles key check ready =
        match check (item stateFiles key) with
        | .ok _ => if ready then .saved else .refused
        | .error _ => .refused := by
      unfold sectionOutcome
      cases h : item stateFiles key <;> first | rfl | exact absurd h hnull
    rw [houtcome]
    cases hcheck : check (item stateFiles key) with
    | error e =>
      refine fun r s _ => ⟨e, ?_⟩
      simp only [hact, hcheck]
      rfl
    | ok value =>
      simp only [hcheck] at hact hplan hsave
      cases ready with
      | false =>
        refine fun r s hs => ?_
        simp only [hact]
        exact hfail rfl value r s hs
      | true =>
        refine ⟨fun r s hs => ?_, fun r => ?_⟩
        · simp only [hact]
          exact hsave rfl value rfl r s hs
        · simp only [hplan]
          exact ⟨add value r, rfl, hadd value r⟩

/-- Merging into an onboarding state that can be loaded. -/
theorem mergeSetup_loads (merge : ProviderSetupState → ProviderSetupState) {s : Stores ρ ι}
    (h : s.onboardingState.loads = true) : ∃ saved s', mergeSetup merge s = .ok saved s' ∧
      s'.onboardingState.loads = true ∧ s'.written = s.written ++ ["onboarding_state"] := by
  have hload : ∃ current, s.onboardingState.load {} = .ok current := by
    cases hstate : s.onboardingState with
    | missing => exact ⟨_, rfl⟩
    | valid current => exact ⟨current, rfl⟩
    | invalid =>
      rw [hstate] at h
      cases h
  obtain ⟨current, hload⟩ := hload
  have hget : (get >>= fun stores : Stores ρ ι => liftExcept (stores.onboardingState.load {}) :
      StoresM ρ ι PersistedOnboardingState) s = .ok current s := by
    rw [bind_run_ok (show (get : StoresM ρ ι (Stores ρ ι)) s = .ok s s from rfl), hload]
    rfl
  unfold mergeSetup
  rw [← bind_assoc, bind_run_ok hget]
  exact ⟨_, _, rfl, rfl, rfl⟩

theorem mergeSetup_invalid (merge : ProviderSetupState → ProviderSetupState) {s : Stores ρ ι}
    (h : s.onboardingState.loads = false) : ∃ e, mergeSetup merge s = .error e s := by
  have hinvalid : s.onboardingState = .invalid := by
    cases hstate : s.onboardingState with
    | missing =>
      rw [hstate] at h
      cases h
    | valid current =>
      rw [hstate] at h
      cases h
    | invalid => rfl
  refine ⟨.validationError, ?_⟩
  unfold mergeSetup
  rw [bind_run_ok (show (get : StoresM ρ ι (Stores ρ ι)) s = .ok s s from rfl), hinvalid]
  rfl

end steps

/-! ### The sections of a bundle -/

section bundle

variable (py : Python) (floatOf : String → Option PyFloat) (pydantic : Pydantic)
  {ρ ι : Type} (registryModel : PydanticModel ρ) (intentModel : PydanticModel ι)

variable {stateFiles : JsonObject}

/-- The sections, in the order of the import. -/
def sectionSteps (request : NodeMigrationImportRequest) (stateFiles : JsonObject) :
    List (SectionStep ρ ι) :=
  [⟨"onboarding_state",
      importSection stateFiles "onboarding_state" (checkOnboardingState pydantic request)
        fun s r => do
          saveOnboardingState s
          return (r.about s).add "onboarding_state" (stateWarnings s),
      planSection stateFiles "onboarding_state" (checkOnboardingState pydantic request)
        fun s r => (r.about s).add "onboarding_state" (stateWarnings s)⟩,
    ⟨"endpoint_registry",
      importSection stateFiles "endpoint_registry" (validated ∘ registryModel.modelValidate)
        fun registry r => do
          saveEndpointRegistry registry
          return r.add "endpoint_registry" [],
      planSection stateFiles "endpoint_registry" (validated ∘ registryModel.modelValidate)
        fun _ r => r.add "endpoint_registry" []⟩,
    ⟨"voice_intents",
      importSection stateFiles "voice_intents" (validated ∘ intentModel.modelValidate)
        fun intents r => do
          saveVoiceIntents intents
          return r.add "voice_intents" [],
      planSection stateFiles "voice_intents" (validated ∘ intentModel.modelValidate)
        fun _ r => r.add "voice_intents" []⟩,
    ⟨"voice_tts_settings",
      importSection stateFiles "voice_tts_settings" checkTtsSettings
        fun entries r => do
          saveTtsSettings entries
          return r.add "voice_tts_settings" [],
      planSection stateFiles "voice_tts_settings" checkTtsSettings
        fun _ r => r.add "voice_tts_settings" []⟩,
    ⟨"voice_tts_provider_settings",
      importSection stateFiles "voice_tts_provider_settings" (validateTtsProviderSettings py)
        fun tts r => do
          let saved ← mergeSetup (mergeTtsProviderSettings · tts)
          return (r.aboutMissing saved).add "voice_tts_provider_settings" [ttsWarning],
      planSection stateFiles "voice_tts_provider_settings" (validateTtsProviderSettings py)
        fun _ r => r.add "voice_tts_provider_settings" [ttsWarning]⟩,
    ⟨"voice_stt_settings",
      importSection stateFiles "voice_stt_settings" (validateSttSettings py)
        fun stt r => do
          let saved ← mergeSetup (mergeSttSettings · stt)
          return (r.aboutMissing saved).add "voice_stt_settings" (sttWarnings stt),
      planSection stateFiles "voice_stt_settings" (validateSttSettings py)
        fun stt r => r.add "voice_stt_settings" (sttWarnings stt)⟩,
    ⟨"voice_wake_settings",
      importSection stateFiles "voice_wake_settings" (validateWakeSettings py floatOf)
        fun wake r => do
          let saved ← mergeSetup (mergeWakeSettings · wake)
          return (r.aboutMissing saved).add "voice_wake_settings" [wakeWarning],
      planSection stateFiles "voice_wake_settings" (validateWakeSettings py floatOf)
        fun _ r => r.add "voice_wake_settings" [wakeWarning]⟩]

theorem importStateFiles_eq (request : NodeMigrationImportRequest) :
    importStateFiles py floatOf pydantic registryModel intentModel request =
      liftExcept (stateFilesOf request.bundle) >>= fun stateFiles =>
        actAll (sectionSteps py floatOf pydantic registryModel intentModel request stateFiles)
          { imported := true } >>= fun r => liftExcept (concluded r) := by
  unfold importStateFiles
  refine bind_congr fun stateFiles => ?_
  simp only [actAll, sectionSteps, List.foldlM_cons, List.foldlM_nil, bind_assoc, pure_bind]

theorem dryRunImportPlan_eq (request : NodeMigrationImportRequest) :
    dryRunImportPlan py floatOf pydantic registryModel intentModel request =
      stateFilesOf request.bundle >>= fun stateFiles =>
        planAll (sectionSteps py floatOf pydantic registryModel intentModel request stateFiles)
          { imported := false } >>= concluded := by
  unfold dryRunImportPlan
  refine bind_congr fun stateFiles => ?_
  simp only [planAll, sectionSteps, List.foldlM_cons, List.foldlM_nil, bind_assoc, pure_bind]

theorem sectionSteps_comeOut (request : NodeMigrationImportRequest)
    (onboarding : StoreFile PersistedOnboardingState) (stateFiles : JsonObject) :
    ComeOut (fun s => s.onboardingState = onboarding)
      (sectionSteps py floatOf pydantic registryModel intentModel request stateFiles)
      (sectionOutcomes py floatOf pydantic registryModel intentModel request onboarding
        stateFiles) := by
  unfold sectionSteps sectionOutcomes
  dsimp only
  generalize hloads : (decide (sectionOutcome stateFiles "onboarding_state"
    (checkOnboardingState pydantic request) true = .saved) || onboarding.loads) = loads
  have hmerge (merge : ProviderSetupState → ProviderSetupState) (file : String)
      (add : PersistedOnboardingState → NodeMigrationImportResponse → NodeMigrationImportResponse)
      (hadd : ∀ saved r, (add saved r).filesImported = r.filesImported ++ [file])
      (hready : loads = true) (r : NodeMigrationImportResponse) (s : Stores ρ ι)
      (hs : s.onboardingState.loads = loads) :
      ∃ r' s', (mergeSetup merge >>= fun saved => pure (add saved r)) s = .ok r' s' ∧
        s'.onboardingState.loads = loads ∧ s.written.length < s'.written.length ∧
        r'.filesImported = r.filesImported ++ [file] := by
    obtain ⟨saved, s', hrun, hafter, hwritten⟩ := mergeSetup_loads merge (hs.trans hready)
    rw [bind_run_ok hrun]
    refine ⟨add saved r, s', rfl, hafter.trans hready.symm, ?_, hadd saved r⟩
    rw [hwritten, List.length_append]
    exact Nat.lt_succ_self _
  have hinvalid (merge : ProviderSetupState → ProviderSetupState)
      (add : PersistedOnboardingState → NodeMigrationImportResponse) (hready : loads = false)
      (s : Stores ρ ι) (hs : s.onboardingState.loads = loads) :
      ∃ e, (mergeSetup merge >>= fun saved => pure (add saved)) s = .error e s := by
    obtain ⟨e, hrun⟩ := mergeSetup_invalid merge (hs.trans hready)
    exact ⟨e, bind_run_error hrun⟩
  have hlength (files : List String) (file : String) : files.length < (files ++ [file]).length := by
    rw [List.length_append]
    exact Nat.lt_succ_self _
  refine .cons (fun s => s.onboardingState.loads = loads) ?_ <|
    .cons (fun s => s.onboardingState.loads = loads) ?_ <|
    .cons (fun s => s.onboardingState.loads = loads) ?_ <|
    .cons (fun s => s.onboardingState.loads = loads) ?_ <|
    .cons (fun s => s.onboardingState.loads = loads) ?_ <|
    .cons (fun s => s.onboardingState.loads = loads) ?_ <|
    .cons (fun s => s.onboardingState.loads = loads) ?_ (.nil _)
  · refine section_comesOut (fun hnull s hs => ?_) (fun _ state hcheck r s hs => ?_)
      (fun h => nomatch h) fun _ _ => rfl
    · have habsent : sectionOutcome stateFiles "onboarding_state"
          (checkOnboardingState pydantic request) true = .absent := by
        rw [sectionOutcome, hnull]
      rw [habsent] at hloads
      rw [hs]
      simpa using hloads
    · refine ⟨_, _, rfl, ?_, hlength _ _, rfl⟩
      have hsaved : sectionOutcome stateFiles "onboarding_state"
          (checkOnboardingState pydantic request) true = .saved := by
        unfold sectionOutcome
        cases h : item stateFiles "onboarding_state" with
        | null =>
          rw [h] at hcheck
          cases hcheck
        | _ =>
          rw [h] at hcheck
          simp only [hcheck, if_true]
      rw [← hloads, hsaved]
      rfl
  · exact section_comesOut (fun _ s hs => hs)
      (fun _ registry _ r s hs => ⟨_, _, rfl, hs, hlength _ _, rfl⟩) (fun h => nomatch h)
      fun _ _ => rfl
  · exact section_comesOut (fun _ s hs => hs)
      (fun _ intents _ r s hs => ⟨_, _, rfl, hs, hlength _ _, rfl⟩) (fun h => nomatch h)
      fun _ _ => rfl
  · exact section_comesOut (fun _ s hs => hs)
      (fun _ entries _ r s hs => ⟨_, _, rfl, hs, hlength _ _, rfl⟩) (fun h => nomatch h)
      fun _ _ => rfl
  · exact section_comesOut (fun _ s hs => hs)
      (fun hready tts _ r s hs => hmerge _ _
        (fun saved r => (r.aboutMissing saved).add _ [ttsWarning]) (fun _ _ => rfl) hready r s hs)
      (fun hready tts r s hs => hinvalid _ _ hready s hs) fun _ _ => rfl
  · exact section_comesOut (fun _ s hs => hs)
      (fun hready stt _ r s hs => hmerge _ _
        (fun saved r => (r.aboutMissing saved).add _ (sttWarnings stt)) (fun _ _ => rfl) hready r s hs)
      (fun hready stt r s hs => hinvalid _ _ hready s hs) fun _ _ => rfl
  · exact section_comesOut (fun _ s hs => hs)
      (fun hready wake _ r s hs => hmerge _ _
        (fun saved r => (r.aboutMissing saved).add _ [wakeWarning]) (fun _ _ => rfl) hready r s hs)
      (fun hready wake r s hs => hinvalid _ _ hready s hs) fun _ _ => rfl

theorem sectionOutcome_saved {α : Type}
    {check : Json → Except MigrationError α} (hitem : item stateFiles key ≠ .null)
    (h : ∃ value, check (item stateFiles key) = .ok value) :
    sectionOutcome stateFiles key check true = .saved := by
  obtain ⟨value, h⟩ := h
  unfold sectionOutcome
  cases hpayload : item stateFiles key with
  | null => exact absurd hpayload hitem
  | _ =>
    rw [hpayload] at h
    simp only [h, if_true]

theorem sectionOutcome_ne_refused {α : Type}
    {check : Json → Except MigrationError α} {ready : Bool} (hready : ready = true)
    (h : item stateFiles key = .null ∨ ∃ value, check (item stateFiles key) = .ok value) :
    sectionOutcome stateFiles key check ready ≠ .refused := by
  unfold sectionOutcome
  rcases h with hnull | ⟨value, hvalue⟩
  · rw [hnull]
    exact fun h => nomatch h
  · cases hitem : item stateFiles key with
    | null => exact fun h => nomatch h
    | _ =>
      rw [hitem] at hvalue
      simp only [hvalue, hready, if_true]
      exact fun h => nomatch h

/-- A bundle of which no section is refused, and one is there, is imported. -/
theorem importStateFiles_accepts {request : NodeMigrationImportRequest}
    (hfiles : stateFilesOf request.bundle = .ok stateFiles) (stores : Stores ρ ι)
    (hstate : sectionOutcome stateFiles "onboarding_state" (checkOnboardingState pydantic request)
      true = .saved)
    (hnone : .refused ∉ sectionOutcomes py floatOf pydantic registryModel intentModel request
      stores.onboardingState stateFiles) :
    ∃ r stores', importStateFiles py floatOf pydantic registryModel intentModel request stores =
      .ok r stores' := by
  have hsteps := sectionSteps_comeOut py floatOf pydantic registryModel intentModel request
    stores.onboardingState stateFiles
  obtain ⟨r, stores', hrun, -, -, hsaved⟩ := (hsteps.accepted hnone).1 { imported := true } stores rfl
  have hkeys : r.filesImported ≠ [] := by
    rw [hsaved]
    simp [sectionSteps, sectionOutcomes, savedKeys, hstate]
  rw [importStateFiles_eq, hfiles, bind_run_ok (show liftExcept (.ok stateFiles) stores =
    .ok stateFiles stores from rfl), bind_run_ok hrun, concluded, if_neg hkeys]
  exact ⟨_, _, rfl⟩

/-- **An import is all or nothing exactly if no section is saved before another is refused**, and
what an import returns is what a dry run returned before. -/
theorem import_all_or_nothing (request : NodeMigrationImportRequest) (hrequest : request.dryRun = false)
    (stores : Stores ρ ι) :
    ((∀ e stores', importBundle py floatOf pydantic registryModel intentModel request stores =
        .error e stores' → stores' = stores) ∧
      ∀ r stores', importBundle py floatOf pydantic registryModel intentModel request stores =
        .ok r stores' → ∃ plan, importBundle py floatOf pydantic registryModel intentModel
          { request with dryRun := true } stores = .ok plan stores ∧
            plan.filesImported = r.filesImported) ↔
      importsWhole py floatOf pydantic registryModel intentModel request stores.onboardingState =
        true := by
  have himport : importBundle py floatOf pydantic registryModel intentModel request stores =
      importStateFiles py floatOf pydantic registryModel intentModel request stores := by
    rw [importBundle, if_neg (by simp [hrequest])]
  rw [himport, importStateFiles_eq]
  unfold importsWhole
  cases hfiles : stateFilesOf request.bundle with
  | error e =>
    rw [bind_run_error (show liftExcept (.error e) stores = .error e stores from rfl)]
    simp
  | ok stateFiles =>
    rw [bind_run_ok (show liftExcept (.ok stateFiles) stores = .ok stateFiles stores from rfl)]
    dsimp only
    have hsteps := sectionSteps_comeOut py floatOf pydantic registryModel intentModel request
      stores.onboardingState stateFiles
    generalize hall : sectionSteps py floatOf pydantic registryModel intentModel request stateFiles =
      steps at hsteps
    generalize sectionOutcomes py floatOf pydantic registryModel intentModel request
      stores.onboardingState stateFiles = outcomes at hsteps ⊢
    by_cases hrefused : .refused ∈ outcomes
    · obtain ⟨e, s', hrun, hwritten, hsame, hpart⟩ :=
        hsteps.refused hrefused { imported := true } stores rfl
      rw [bind_run_error hrun]
      constructor
      · rintro ⟨hwhole, -⟩
        by_contra hnot
        have hlonger := hpart (by simpa using hnot)
        rw [hwhole e s' rfl] at hlonger
        exact lt_irrefl _ hlonger
      · intro hfirst
        refine ⟨fun e' stores' h => ?_, fun r stores' h => nomatch h⟩
        cases h
        exact hsame hfirst
    · obtain ⟨hact, hplan⟩ := hsteps.accepted hrefused
      obtain ⟨r, s', hrun, hwritten, hnone, hsaved⟩ := hact { imported := true } stores rfl
      rw [bind_run_ok hrun]
      refine iff_of_true ⟨fun e stores' h => ?_, fun r' stores' h => ?_⟩
        (refusedFirst_of_not_mem hrefused)
      · by_cases hempty : r.filesImported = []
        · simp only [concluded, hempty, if_true, refuse] at h
          cases h
          exact hnone (by simpa [hempty] using hsaved.symm)
        · simp only [concluded, hempty, if_false] at h
          cases h
      · have hempty : r.filesImported ≠ [] := by
          intro hempty
          simp only [concluded, hempty, if_true, refuse] at h
          cases h
        simp only [concluded, hempty, if_false] at h
        cases h
        obtain ⟨plan, hplanned, hkeys⟩ := hplan { imported := false }
        have hplanFiles : plan.filesImported = r.filesImported := hkeys.trans hsaved.symm
        have hdry : dryRunImportPlan py floatOf pydantic registryModel intentModel
            { request with dryRun := true } =
              .ok { plan with warnings := plan.warnings ++ [copyWarning] } := by
          rw [dryRunImportPlan_eq (ρ := ρ) (ι := ι), hfiles]
          show planAll _ _ >>= concluded = _
          have hsame : sectionSteps py floatOf pydantic registryModel intentModel
              { request with dryRun := true } stateFiles = steps := hall
          rw [hsame, hplanned]
          show concluded plan = _
          rw [concluded, if_neg (hplanFiles ▸ hempty)]
        refine ⟨{ plan with warnings := plan.warnings ++ [copyWarning] ++ [dryRunWarning] }, ?_,
          hplanFiles⟩
        show (liftExcept _).map _ stores = _
        rw [hdry]
        rfl

end bundle

/-! ### A kitchen node -/

section kitchen

private def kitchenPydantic : Pydantic := ⟨fun _ => none, fun _ => none⟩

/-- A model whose values are objects. -/
private def objectModel : PydanticModel JsonObject := ⟨.empty, mapping, .obj⟩

/-- A bundle with an onboarding state and this endpoint registry. -/
def kitchenBundle (registry : Json) : NodeMigrationImportRequest where
  bundle := ⟨[("schema_version", .int 1), ("state_files",
    .obj ⟨[("onboarding_state", .obj .empty), ("endpoint_registry", registry)]⟩)]⟩

theorem import_all_or_nothing_kitchen : ∃ r stores',
    importBundle .ascii (fun _ => none) kitchenPydantic objectModel objectModel
      (kitchenBundle (.obj .empty)) {} = .ok r stores' ∧
    ∃ plan, importBundle .ascii (fun _ => none) kitchenPydantic objectModel objectModel
      { kitchenBundle (.obj .empty) with dryRun := true } {} = .ok plan {} ∧
        plan.filesImported = r.filesImported := by
  have h := (import_all_or_nothing .ascii (fun _ => none) kitchenPydantic objectModel
    objectModel (kitchenBundle (.obj .empty)) rfl {}).mpr (by decide +kernel)
  exact ⟨_, _, rfl, h.2 _ _ rfl⟩

/-- **The onboarding state is saved and the endpoint registry refused.** -/
theorem registry_refused_after_state : ∃ stores' : Stores JsonObject JsonObject,
    importBundle .ascii (fun _ => none) kitchenPydantic objectModel objectModel
      (kitchenBundle (.str "kitchen")) {} = .error .validationError stores' ∧
    stores'.written = ["onboarding_state"] ∧ stores' ≠ {} := by
  refine ⟨_, rfl, rfl, fun h => ?_⟩
  cases congrArg Stores.written h

end kitchen

end HexeVoice.Migration
