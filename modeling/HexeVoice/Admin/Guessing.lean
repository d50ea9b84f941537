import HexeVoice.Admin.Maintenance

/-!
# Passcode guessing

How often a passcode can be guessed, over runs of `VoiceAdminMaintenanceStore`.

## The model

A run is a list of operations, each with its readings of the clock, which do not decrease. The
count of failed attempts and the lockout are a `Guard`: each operation does to it what a few acts
do (`guard_step`).

## What is proved

**`guessing_bounded`**: from a file without a lockout that counts no negative number of attempts,
within five minutes in which no evaluation is let through at most three passcodes are checked in
vain, and none is let through before a lockout has run out.
-/

namespace HexeVoice.Admin

open HexeVoice.Library HexeVoice.Voice

/-- An operation of the store. -/
inductive Op where
  | evaluate (text : String) (intentId : Option String) (speaker : Option SpeakerIdentity)
      (audioQuality : Option AudioQuality) (now : Option Datetime) (clock : Clock)
  | updateSettings (enabled : Option Bool) (adminSpeakerPublicIds : Option (List String))
      (enabledIntents : Option (Dict String Bool)) (clock : Clock)
  | status (now : ℤ)

namespace Op

/-- The instants that an operation goes by, in turn. -/
def times : Op → ℤ × ℤ
  | evaluate _ _ _ _ now clock =>
    ((now.getD ⟨clock.first, true⟩).micros, (now.getD ⟨clock.second, true⟩).micros)
  | updateSettings _ _ _ clock => (clock.first, clock.second)
  | status now => (now, now)

/-- The instant of an operation: of an evaluation, the one that a lockout counts from. -/
def time (op : Op) : ℤ := op.times.2

/-- Both instants. -/
def readings (op : Op) : List ℤ := [op.times.1, op.times.2]

end Op

section runs

variable (t : CharTable) (pbkdf2 : String → String → ℤ → Except StoreError String)

/-- The file after an operation, also after one that an exception ends. -/
def fileAfter {α : Type} : EStateM.Result StoreError VoiceAdminMaintenanceState α →
    VoiceAdminMaintenanceState
  | .ok _ s | .error _ s => s

/-- A step of a run. -/
def step (s : VoiceAdminMaintenanceState) : Op → VoiceAdminMaintenanceState
  | .evaluate text intentId speaker audioQuality now clock =>
    fileAfter (evaluate t pbkdf2 text intentId speaker audioQuality now clock s)
  | .updateSettings enabled ids intents clock => fileAfter (updateSettings enabled ids intents clock s)
  | .status now => fileAfter (status now s)

/-- The decision of an evaluation, if it returns one. -/
def decision (s : VoiceAdminMaintenanceState) : Op → Option AdminMaintenanceDecision
  | .evaluate text intentId speaker audioQuality now clock =>
    match evaluate t pbkdf2 text intentId speaker audioQuality now clock s with
    | .ok decision _ => some decision
    | .error _ _ => none
  | _ => none

/-- An evaluation returns allowed. -/
def allowed (s : VoiceAdminMaintenanceState) (op : Op) : Bool :=
  (decision t pbkdf2 s op).any (·.allowed)

/-- The check of the passcode that an evaluation reaches, if it does. -/
def passcodeCheck (s : VoiceAdminMaintenanceState) :
    Op → Option (Except StoreError (Option String))
  | .evaluate text intentId speaker audioQuality now clock =>
    match clearExpiredLockout s (now.getD ⟨clock.first, true⟩) s with
    | .ok state _ =>
      match admitted state (strip (intentId.getD "")) speaker audioQuality with
      | .ok hashed => some (passcodeFailure t pbkdf2 text hashed)
      | .error _ => none
    | .error _ _ => none
  | _ => none

/-- An evaluation reaches the check of the passcode, and it is missing or wrong. -/
def failsCheck (s : VoiceAdminMaintenanceState) (op : Op) : Bool :=
  match passcodeCheck t pbkdf2 s op with
  | some (.ok reason) => reason.isSome
  | _ => false

/-- The operations of a run, each with the file that it finds. -/
def calls (s : VoiceAdminMaintenanceState) : List Op → List (VoiceAdminMaintenanceState × Op)
  | [] => []
  | op :: ops => (s, op) :: calls (step t pbkdf2 s op) ops

end runs

/-! ### Operations -/

/-- What `_clear_expired_lockout` makes of the file. -/
def cleared (s : VoiceAdminMaintenanceState) (now : ℤ) : VoiceAdminMaintenanceState :=
  match s.lockedUntil with
  | none => s
  | some u => if now < u then s else { s with lockedUntil := none, failedAttempts := 0 }

theorem clearExpiredLockout_eq (s : VoiceAdminMaintenanceState) (now : Datetime) :
    clearExpiredLockout s now s =
      if s.lockedUntil.isSome ∧ now.aware = false then .error .typeError s
      else .ok (cleared s now.micros) (cleared s now.micros) := by
  unfold clearExpiredLockout cleared
  cases hlock : s.lockedUntil with
  | none => simp; rfl
  | some u =>
    cases haware : now.aware with
    | false => simp; rfl
    | true =>
      simp only [Bool.not_true, Bool.false_eq_true, if_false]
      split <;> rfl

/-- Who is admitted finds no lockout. -/
theorem lockedUntil_of_admitted {state : VoiceAdminMaintenanceState} {intent : String}
    {speaker : Option SpeakerIdentity} {audioQuality : Option AudioQuality} {hashed : PasscodeHash}
    (h : admitted state intent speaker audioQuality = .ok hashed) : state.lockedUntil = none := by
  by_contra hlock
  simp only [admitted, bind, Except.bind, throw, throwThe, MonadExceptOf.throw, pure,
    Except.pure] at h
  repeat' split at h
  all_goals simp_all

theorem not_allowed_of_refused {state : VoiceAdminMaintenanceState} {intent : String}
    {speaker : Option SpeakerIdentity} {audioQuality : Option AudioQuality}
    {decision : AdminMaintenanceDecision}
    (h : admitted state intent speaker audioQuality = .error decision) :
    decision.allowed = false := by
  simp only [admitted, bind, Except.bind, throw, throwThe, MonadExceptOf.throw, pure,
    Except.pure] at h
  repeat' split at h
  all_goals cases h
  all_goals rfl

section operations

variable {t : CharTable} {pbkdf2 : String → String → ℤ → Except StoreError String}
  {s : VoiceAdminMaintenanceState}

theorem failedPasscode_eq (s' : VoiceAdminMaintenanceState) (intent reason : String)
    (now : Datetime) :
    ∃ decision, decision.allowed = false ∧
      failedPasscode s intent reason now s' = .ok decision { s with
        failedAttempts := s.failedAttempts + 1
        lockedUntil := if maxFailedAttempts ≤ s.failedAttempts + 1 then
          some (now.micros + lockoutPeriod) else none } := ⟨_, rfl, rfl⟩

variable (t pbkdf2 s) in
theorem evaluate_eq (text : String) (intentId : Option String) (speaker : Option SpeakerIdentity)
    (audioQuality : Option AudioQuality) (now : Option Datetime) (clock : Clock) :
    evaluate t pbkdf2 text intentId speaker audioQuality now clock s =
      let sweep := now.getD ⟨clock.first, true⟩
      if s.lockedUntil.isSome ∧ sweep.aware = false then .error .typeError s
      else
        let s' := cleared s sweep.micros
        let intent := strip (intentId.getD "")
        match admitted s' intent speaker audioQuality with
        | .error decision => .ok decision s'
        | .ok hashed =>
          match passcodeFailure t pbkdf2 text hashed with
          | .error error => .error error s'
          | .ok (some reason) =>
            failedPasscode s' intent reason (now.getD ⟨clock.second, true⟩) s'
          | .ok none =>
            .ok ⟨true, "admin_maintenance_allowed", intent, none⟩
              (if s'.failedAttempts ≠ 0 then { s' with failedAttempts := 0, lockedUntil := none }
                else s') := by
  simp only [evaluate, bind, EStateM.bind, get, getThe, MonadStateOf.get, EStateM.get, clearExpiredLockout_eq]
  by_cases hraise : s.lockedUntil.isSome = true ∧ (now.getD ⟨clock.first, true⟩).aware = false
  · rw [if_pos hraise, if_pos hraise]
  · rw [if_neg hraise, if_neg hraise]
    dsimp only
    generalize cleared s (now.getD ⟨clock.first, true⟩).micros = s'
    cases admitted s' (strip (intentId.getD "")) speaker audioQuality with
    | error decision => rfl
    | ok hashed =>
      dsimp only
      cases passcodeFailure t pbkdf2 text hashed with
      | error error => rfl
      | ok reason =>
        cases reason with
        | some reason => rfl
        | none =>
          dsimp only
          split_ifs <;> rfl

/-! ### Operations as acts -/

/-- The count and the lockout of the file. -/
def VoiceAdminMaintenanceState.guard (s : VoiceAdminMaintenanceState) : Guard :=
  ⟨s.failedAttempts, s.lockedUntil⟩

/-- What an act does to the guard of the store. -/
abbrev guardAct : Guard → Guard.Act → Guard := Guard.act maxFailedAttempts lockoutPeriod

theorem guard_cleared (s : VoiceAdminMaintenanceState) (now : ℤ) :
    (cleared s now).guard = guardAct s.guard (.sweep now) := by
  unfold cleared VoiceAdminMaintenanceState.guard
  simp only [guardAct, Guard.act]
  cases hlock : s.lockedUntil with
  | none => simp [hlock]
  | some u =>
    by_cases hlt : now < u
    · simp [hlt, hlock]
    · simp [hlt, not_lt.mp hlt]

theorem fileAfter_status (now : ℤ) : fileAfter (status now s) = cleared s now := by
  simp only [status, bind, EStateM.bind, get, getThe, MonadStateOf.get, EStateM.get,
    clearExpiredLockout_eq, Bool.true_eq_false, and_false, if_false]
  rfl

theorem guard_updateSettings (enabled : Option Bool) (ids : Option (List String))
    (intents : Option (Dict String Bool)) (clock : Clock) :
    (fileAfter (updateSettings enabled ids intents clock s)).guard =
      (cleared (cleared s clock.first) clock.second).guard := by
  have hstatus (s' s'' : VoiceAdminMaintenanceState) (h : s'.guard = s''.guard) :
      (fileAfter (status clock.second s')).guard = (cleared s'' clock.second).guard := by
    rw [fileAfter_status, guard_cleared, guard_cleared, h]
  simp only [updateSettings, bind, EStateM.bind, get, getThe, MonadStateOf.get, EStateM.get,
    clearExpiredLockout_eq, Bool.true_eq_false, and_false, if_false]
  exact hstatus _ _ rfl

variable (t pbkdf2 s) in
/-- The operation does to the guard what the acts do, of which the last fails when the check of the
passcode does, and succeeds when the evaluation is allowed. -/
structure Performs (op : Op) (acts : List Guard.Act) : Prop where
  guard : (step t pbkdf2 s op).guard = run guardAct s.guard acts
  admits : AllSteps guardAct Guard.Admits s.guard acts
  times : (acts.map (·.time)).Sublist op.readings
  fails : acts.filter (·.isFail) = if failsCheck t pbkdf2 s op then [.fail op.time] else []
  succeeds : acts.filter (·.isSucceed) = if allowed t pbkdf2 s op then [.succeed op.time] else []
  opens : allowed t pbkdf2 s op = true → (cleared s op.times.1).lockedUntil = none

variable (t pbkdf2 s) in
theorem exists_performs (op : Op) : ∃ acts, Performs t pbkdf2 s op acts := by
  cases op with
  | status now =>
    refine ⟨[.sweep now], ?_, by simp, by simp [Op.readings, Op.times], by simp [failsCheck, passcodeCheck],
      by simp [allowed, decision], by simp [allowed, decision]⟩
    rw [step, fileAfter_status]
    exact guard_cleared s now
  | updateSettings enabled ids intents clock =>
    refine ⟨[.sweep clock.first, .sweep clock.second], ?_, by simp, by simp [Op.readings, Op.times],
      by simp [failsCheck, passcodeCheck], by simp [allowed, decision], by simp [allowed, decision]⟩
    rw [step, guard_updateSettings, guard_cleared, guard_cleared]
    rfl
  | evaluate text intentId speaker audioQuality now clock =>
    have hrun := evaluate_eq t pbkdf2 s text intentId speaker audioQuality
      now clock
    have hclear := clearExpiredLockout_eq s (now.getD ⟨clock.first, true⟩)
    by_cases hraise : s.lockedUntil.isSome = true ∧ (now.getD ⟨clock.first, true⟩).aware = false
    · rw [if_pos hraise] at hrun hclear
      exact ⟨[], by simp [step, hrun, fileAfter], trivial, by simp,
        by simp [failsCheck, passcodeCheck, hclear], by simp [allowed, decision, hrun],
        by simp [allowed, decision, hrun]⟩
    rw [if_neg hraise] at hrun hclear
    dsimp only at hrun
    have hguard := guard_cleared s (now.getD ⟨clock.first, true⟩).micros
    generalize hs' : cleared s (now.getD ⟨clock.first, true⟩).micros = s' at *
    -- the sweep, then what the passcode comes to if its check is reached
    cases hadmitted : admitted s' (strip (intentId.getD "")) speaker audioQuality with
    | error refused =>
      have hrefused := not_allowed_of_refused hadmitted
      simp only [hadmitted] at hrun
      exact ⟨[.sweep (now.getD ⟨clock.first, true⟩).micros], by simpa [step, hrun, fileAfter] using hguard,
        by simp, by simp [Op.readings, Op.times], by simp [failsCheck, passcodeCheck, hclear, hadmitted],
        by simp [allowed, decision, hrun, hrefused], by simp [allowed, decision, hrun, hrefused]⟩
    | ok hashed =>
      have hopen := lockedUntil_of_admitted hadmitted
      have hadmits : s'.guard.lockedUntil = none := hopen
      simp only [hadmitted] at hrun
      cases hfailure : passcodeFailure t pbkdf2 text hashed with
      | error error =>
        simp only [hfailure] at hrun
        exact ⟨[.sweep (now.getD ⟨clock.first, true⟩).micros], by simpa [step, hrun, fileAfter] using hguard,
          by simp, by simp [Op.readings, Op.times], by simp [failsCheck, passcodeCheck, hclear, hadmitted, hfailure],
          by simp [allowed, decision, hrun], by simp [allowed, decision, hrun]⟩
      | ok reason =>
        cases reason with
        | some reason =>
          obtain ⟨d, hd, hfailed⟩ := failedPasscode_eq (s := s') s' (strip (intentId.getD "")) reason
            (now.getD ⟨clock.second, true⟩)
          simp only [hfailure, hfailed] at hrun
          refine ⟨[.sweep (now.getD ⟨clock.first, true⟩).micros,
            .fail (now.getD ⟨clock.second, true⟩).micros], ?_, ?_, ?_, ?_, ?_, ?_⟩
          · simp only [step, hrun, fileAfter, run_cons, ← hguard]
            rfl
          · simp [← hguard, hadmits]
          · simp [Op.readings, Op.times]
          · simp [failsCheck, passcodeCheck, hclear, hadmitted, hfailure, Op.time, Op.times]
          · simp [allowed, decision, hrun, hd]
          · simp [allowed, decision, hrun, hd]
        | none =>
          simp only [hfailure] at hrun
          refine ⟨[.sweep (now.getD ⟨clock.first, true⟩).micros,
            .succeed (now.getD ⟨clock.second, true⟩).micros], ?_, ?_, ?_, ?_, ?_, ?_⟩
          · simp only [step, hrun, fileAfter, run_cons, ← hguard]
            split_ifs with hattempts
            · rfl
            · have hzero : s'.guard = ⟨0, none⟩ := by
                simp [VoiceAdminMaintenanceState.guard, hopen, not_not.mp hattempts]
              rw [hzero]
              rfl
          · simp [← hguard, hadmits]
          · simp [Op.readings, Op.times]
          · simp [failsCheck, passcodeCheck, hclear, hadmitted, hfailure]
          · simp [allowed, decision, hrun, Op.time, Op.times]
          · exact fun _ => hs' ▸ hopen

end operations

/-! ### Runs -/

section runs

variable (t : CharTable) (pbkdf2 : String → String → ℤ → Except StoreError String)
variable {s : VoiceAdminMaintenanceState}

/-- A run does to the guard what acts do that fail and succeed as the evaluations do. -/
theorem exists_acts (s : VoiceAdminMaintenanceState) (ops : List Op) :
    ∃ acts : List Guard.Act, AllSteps guardAct Guard.Admits s.guard acts ∧
      (acts.map (·.time)).Sublist (ops.flatMap (·.readings)) ∧
      (acts.filter (·.isFail) = ((calls t pbkdf2 s ops).filter fun c =>
        failsCheck t pbkdf2 c.1 c.2).map fun c => Guard.Act.fail c.2.time) ∧
      acts.filter (·.isSucceed) = ((calls t pbkdf2 s ops).filter fun c =>
        allowed t pbkdf2 c.1 c.2).map fun c => Guard.Act.succeed c.2.time := by
  induction ops generalizing s with
  | nil => exact ⟨[], trivial, by simp, rfl, rfl⟩
  | cons op ops ih =>
    obtain ⟨acts, hacts⟩ := exists_performs t pbkdf2 s op
    obtain ⟨later, hadmits, htimes, hfails, hsucceeds⟩ := ih (step t pbkdf2 s op)
    refine ⟨acts ++ later, ?_, ?_, ?_, ?_⟩
    · rw [allSteps_append, ← hacts.guard]
      exact ⟨hacts.admits, hadmits⟩
    · rw [List.map_append, List.flatMap_cons]
      exact hacts.times.append htimes
    · rw [List.filter_append, hacts.fails, hfails, calls, List.filter_cons]
      split <;> rfl
    · rw [List.filter_append, hacts.succeeds, hsucceeds, calls, List.filter_cons]
      split <;> rfl

/-- How many checks of a passcode fail within the five minutes that start at `a`. -/
def failedChecks (s : VoiceAdminMaintenanceState) (ops : List Op) (a : ℤ) : ℕ :=
  (calls t pbkdf2 s ops).countP fun c =>
    failsCheck t pbkdf2 c.1 c.2 ∧ Guard.Within lockoutPeriod a c.2.time

theorem failedChecks_le {ops : List Op}
    (hopen : s.lockedUntil = none) (hattempts : 0 ≤ s.failedAttempts)
    (htimes : (ops.flatMap (·.readings)).Pairwise (· ≤ ·)) {a : ℤ}
    (hallowed : ∀ c ∈ calls t pbkdf2 s ops, Guard.Within lockoutPeriod a c.2.time →
      allowed t pbkdf2 c.1 c.2 = false) :
    (failedChecks t pbkdf2 s ops a : ℤ) ≤ maxFailedAttempts := by
  obtain ⟨acts, hadmits, hsublist, hfails, hsucceeds⟩ := exists_acts t pbkdf2 s ops
  have hcount : Guard.failsWithin lockoutPeriod a acts = failedChecks t pbkdf2 s ops a := by
    unfold Guard.failsWithin failedChecks
    simp only [Bool.decide_and, Bool.decide_eq_true]
    simp only [Bool.and_comm (Guard.Act.isFail _), Bool.and_comm (failsCheck _ _ _ _)]
    rw [← List.countP_filter, hfails, List.countP_map, ← List.countP_filter]
    rfl
  rw [← hcount]
  refine Guard.fails_le_limit (g := s.guard) (by decide) hopen hattempts (htimes.sublist hsublist) hadmits a
    fun x hx hsucceed hwithin => ?_
  have hx : x ∈ acts.filter (·.isSucceed) := List.mem_filter.mpr ⟨hx, hsucceed⟩
  rw [hsucceeds] at hx
  obtain ⟨c, hc, rfl⟩ := List.mem_map.mp hx
  rw [List.mem_filter] at hc
  exact absurd hc.2 (by simp [hallowed c hc.1 hwithin])

theorem mem_of_mem_calls {ops : List Op}
    {c : VoiceAdminMaintenanceState × Op} (hc : c ∈ calls t pbkdf2 s ops) : c.2 ∈ ops := by
  induction ops generalizing s with
  | nil => simp [calls] at hc
  | cons op ops ih =>
    rcases List.mem_cons.mp hc with rfl | hc
    · exact List.mem_cons_self
    · exact List.mem_cons_of_mem _ (ih hc)

theorem locked_step {u : ℤ} (hlocked : s.lockedUntil = some u)
    (op : Op) : (op.times.1 < u → allowed t pbkdf2 s op = false) ∧
      (op.times.2 < u → op.times.1 ≤ op.times.2 → (step t pbkdf2 s op).lockedUntil = some u) := by
  obtain ⟨acts, hacts⟩ := exists_performs t pbkdf2 s op
  refine ⟨fun hfirst => ?_, fun hlast hle => ?_⟩
  · by_contra hallowed
    have := hacts.opens (by simpa using hallowed)
    simp [cleared, hlocked, hfirst] at this
  · have htimes : ∀ x ∈ acts, x.time < u := by
      intro x hx
      have := hacts.times.mem (List.mem_map_of_mem hx)
      simp only [Op.readings, List.mem_cons, List.not_mem_nil, or_false] at this
      omega
    have := (Guard.locked_stays (g := s.guard) hlocked hacts.admits htimes).1
    rw [← hacts.guard] at this
    exact (congrArg Guard.lockedUntil this).trans hlocked

/-- While the file is locked, no evaluation is allowed. -/
theorem not_allowed_while_locked {ops : List Op} {u : ℤ}
    (hlocked : s.lockedUntil = some u) (htimes : (ops.flatMap (·.readings)).Pairwise (· ≤ ·)) :
    ∀ c ∈ calls t pbkdf2 s ops, c.2.times.1 < u → allowed t pbkdf2 c.1 c.2 = false := by
  induction ops generalizing s with
  | nil => simp [calls]
  | cons op ops ih =>
    rw [List.flatMap_cons, List.pairwise_append] at htimes
    rw [calls, List.forall_mem_cons]
    obtain ⟨hallowed, hstays⟩ := locked_step t pbkdf2 hlocked op
    refine ⟨hallowed, fun c hc hfirst => ?_⟩
    -- a later call begins after this operation has read the clock
    have hlater : op.times.2 ≤ c.2.times.1 := by
      refine htimes.2.2 _ (by simp [Op.readings]) _ (List.mem_flatMap.mpr ⟨c.2, ?_, by simp [Op.readings]⟩)
      exact mem_of_mem_calls t pbkdf2 hc
    have hle : op.times.1 ≤ op.times.2 := by simpa [Op.readings] using htimes.1
    exact ih (hstays (lt_of_le_of_lt hlater hfirst) hle) htimes.2.1 c hc hfirst

/-- **Guessing passcodes is bounded.** -/
theorem guessing_bounded (s : VoiceAdminMaintenanceState) (hopen : s.lockedUntil = none)
    (hattempts : 0 ≤ s.failedAttempts) (ops : List Op)
    (htimes : (ops.flatMap (·.readings)).Pairwise (· ≤ ·)) :
    (∀ a, (∀ c ∈ calls t pbkdf2 s ops, Guard.Within lockoutPeriod a c.2.time →
        allowed t pbkdf2 c.1 c.2 = false) →
      (failedChecks t pbkdf2 s ops a : ℤ) ≤ maxFailedAttempts) ∧
    (calls t pbkdf2 s ops).Pairwise fun c c' => ∀ u,
      (step t pbkdf2 c.1 c.2).lockedUntil = some u → c'.2.times.1 < u →
        allowed t pbkdf2 c'.1 c'.2 = false := by
  refine ⟨fun a => failedChecks_le t pbkdf2 hopen hattempts htimes, ?_⟩
  clear hopen hattempts
  induction ops generalizing s with
  | nil => exact List.Pairwise.nil
  | cons op ops ih =>
    rw [List.flatMap_cons, List.pairwise_append] at htimes
    rw [calls, List.pairwise_cons]
    exact ⟨fun c hc u hlocked => not_allowed_while_locked t pbkdf2 hlocked htimes.2.1 c hc,
      ih _ htimes.2.1⟩

end runs

/-! ### A guesser without a passcode -/

/-- A store with a passcode, that lets one speaker ask for the status of a placement. -/
def placementStore (failedAttempts : ℤ) : VoiceAdminMaintenanceState where
  enabled := true
  adminSpeakerPublicIds := ["anna"]
  enabledIntents := ⟨[("admin.placement.status", true)]⟩
  passcodeHash := some ⟨"pbkdf2_sha256", 210000, "00", "00"⟩
  failedAttempts

/-- The speaker asks without saying a passcode. -/
def askWithoutPasscode (now : ℤ) : Op :=
  .evaluate "placement status" (some "admin.placement.status")
    (some ⟨some "identified", some "anna", true, some (.value 1), some (.value 1)⟩) (some ⟨[]⟩)
    none ⟨now, now⟩

/-- A stand-in for `pbkdf2_hmac`; nobody says a passcode here. -/
def joinSalt (passcode salt : String) (_ : ℤ) : Except StoreError String :=
  .ok (salt ++ passcode)

theorem guessing_bounded_missing :
    (failedChecks .ascii joinSalt (placementStore 0) ([0, 1, 2, 3].map askWithoutPasscode) 0 : ℤ) ≤
      maxFailedAttempts :=
  (guessing_bounded .ascii joinSalt (placementStore 0) rfl (by decide)
    ([0, 1, 2, 3].map askWithoutPasscode) (by decide)).1 0 (by decide +kernel)

/-- A file that counts minus one attempt lets a fourth check fail before it locks. -/
theorem negative_count_exceeds :
    ¬ ∀ (t : CharTable) (pbkdf2 : String → String → ℤ → Except StoreError String),
      (∀ salt iterations, Function.Injective fun passcode => pbkdf2 passcode salt iterations) →
      ∀ s : VoiceAdminMaintenanceState, s.lockedUntil = none → ∀ ops : List Op,
        (ops.flatMap (·.readings)).Pairwise (· ≤ ·) →
          (∀ a, (∀ c ∈ calls t pbkdf2 s ops, Guard.Within lockoutPeriod a c.2.time →
              allowed t pbkdf2 c.1 c.2 = false) →
            (failedChecks t pbkdf2 s ops a : ℤ) ≤ maxFailedAttempts) ∧
          (calls t pbkdf2 s ops).Pairwise fun c c' => ∀ u,
            (step t pbkdf2 c.1 c.2).lockedUntil = some u → c'.2.times.1 < u →
              allowed t pbkdf2 c'.1 c'.2 = false := by
  intro h
  have hinjective (salt : String) (iterations : ℤ) :
      Function.Injective fun passcode => joinSalt passcode salt iterations := by
    intro a b hab
    simpa [joinSalt] using hab
  have hbound := (h .ascii joinSalt hinjective (placementStore (-1)) rfl
    ([0, 1, 2, 3].map askWithoutPasscode) (by decide)).1 0 (by decide +kernel)
  exact absurd hbound (by decide +kernel)

end HexeVoice.Admin
