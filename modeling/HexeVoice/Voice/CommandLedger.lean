import HexeVoice.Library.Dict
import HexeVoice.Library.Machine
import HexeVoice.Voice.Contracts

/-!
# The command ledger

`_command_records` of `VoiceSessionManager`: a command pushed to an endpoint is recorded as
pending, the endpoint's `command.ack` and `command.error` events update the record, and a
sweep times it out.

## The model

`LedgerStep` is one write to the ledger, by one of its four writers: `recordCommand`,
`updateCommandFromAck`, `updateCommandFromError` and `expireCommands`. Instants and
timeouts are in microseconds.

## What is proved

`terminal_stays`: as long as endpoints report on their own commands, and never again once a
command is settled, a terminal record keeps its status.
-/

namespace HexeVoice.Voice

open HexeVoice.Library

/-- The status of a command record. -/
inductive CommandStatus where
  | pending | accepted | started | succeeded | unsupported | failed | timedOut
  deriving DecidableEq

/-- A record of `_command_records`. -/
structure CommandRecord where
  requestId : String
  endpointId : EndpointId
  commandType : String
  eventType : VoiceEventType
  status : CommandStatus := .pending
  terminal : Bool := false
  createdAt : ℤ
  updatedAt : ℤ
  timeoutAt : ℤ
  message : Option String := none
  errorCode : Option String := none
  deriving DecidableEq

/-- `_command_records`. -/
abbrev CommandLedger := Dict String CommandRecord

/-- `_command_timeout_s`. -/
def commandTimeout : ℤ := 10000000

def recordCommand (records : CommandLedger) (now : ℤ) (requestId : String)
    (endpointId : EndpointId) (commandType : String) (eventType : VoiceEventType)
    (timeout : ℤ) : CommandLedger :=
  records.set requestId
    { requestId, endpointId, commandType, eventType, createdAt := now, updatedAt := now,
      timeoutAt := now + timeout }

/-- The status an acknowledgement sets. -/
def AckStatus.commandStatus : AckStatus → CommandStatus
  | .accepted => .accepted
  | .started => .started
  | .succeeded => .succeeded
  | .unsupported => .unsupported

def updateCommandFromAck (records : CommandLedger) (now : ℤ) (payload : VoiceCommandAckPayload) :
    CommandLedger :=
  match records.get payload.requestId with
  | none => records
  | some record =>
    records.set payload.requestId
      { record with
        status := payload.status.commandStatus
        terminal := payload.status = .succeeded || payload.status = .unsupported
        message := payload.message
        updatedAt := now }

def updateCommandFromError (records : CommandLedger) (now : ℤ)
    (payload : VoiceCommandErrorPayload) : CommandLedger :=
  match records.get payload.requestId with
  | none => records
  | some record =>
    records.set payload.requestId
      { record with
        status := .failed
        terminal := true
        errorCode := some payload.code
        message := some payload.message
        updatedAt := now }

/-- What the sweep does to one record. -/
def CommandRecord.expired (now : ℤ) (record : CommandRecord) : CommandRecord :=
  if record.terminal then record
  else if record.timeoutAt < now then
    { record with status := .timedOut, terminal := true, updatedAt := now }
  else record

def expireCommands (records : CommandLedger) (now : ℤ) : CommandLedger :=
  records.map (CommandRecord.expired now)

/-! ### What a writer does to a record -/

section writers

variable (records : CommandLedger) (now : ℤ) (id : String)

theorem get_recordCommand (requestId : String) (endpointId : EndpointId) (commandType : String)
    (eventType : VoiceEventType) (timeout : ℤ) :
    (recordCommand records now requestId endpointId commandType eventType timeout).get id =
      if id = requestId then
        some { requestId, endpointId, commandType, eventType, createdAt := now, updatedAt := now,
               timeoutAt := now + timeout }
      else records.get id :=
  records.get_set _ _ _

theorem get_updateCommandFromAck (payload : VoiceCommandAckPayload) :
    (updateCommandFromAck records now payload).get id =
      if id = payload.requestId then
        (records.get id).map fun record =>
          { record with
            status := payload.status.commandStatus
            terminal := payload.status = .succeeded || payload.status = .unsupported
            message := payload.message
            updatedAt := now }
      else records.get id := by
  unfold updateCommandFromAck
  split
  · next hnone =>
    split
    · next hid => rw [hid, hnone]; rfl
    · rfl
  · next record hsome =>
    rw [Dict.get_set]
    split
    · next hid => rw [hid, hsome]; rfl
    · rfl

theorem get_updateCommandFromError (payload : VoiceCommandErrorPayload) :
    (updateCommandFromError records now payload).get id =
      if id = payload.requestId then
        (records.get id).map fun record =>
          { record with
            status := .failed
            terminal := true
            errorCode := some payload.code
            message := some payload.message
            updatedAt := now }
      else records.get id := by
  unfold updateCommandFromError
  split
  · next hnone =>
    split
    · next hid => rw [hid, hnone]; rfl
    · rfl
  · next record hsome =>
    rw [Dict.get_set]
    split
    · next hid => rw [hid, hsome]; rfl
    · rfl

theorem get_expireCommands :
    (expireCommands records now).get id = (records.get id).map (CommandRecord.expired now) :=
  records.get_map _ _

end writers

/-! ### Runs of the ledger -/

/-- One write to the ledger. A report comes from the endpoint that is given with it. -/
inductive LedgerStep where
  | push (now : ℤ) (requestId : String) (endpointId : EndpointId) (commandType : String)
      (eventType : VoiceEventType) (timeout : ℤ)
  | ack (now : ℤ) (endpointId : EndpointId) (payload : VoiceCommandAckPayload)
  | error (now : ℤ) (endpointId : EndpointId) (payload : VoiceCommandErrorPayload)
  | expire (now : ℤ)

/-- The ledger after a write. -/
def CommandLedger.write (records : CommandLedger) : LedgerStep → CommandLedger
  | .push now requestId endpointId commandType eventType timeout =>
    recordCommand records now requestId endpointId commandType eventType timeout
  | .ack now _ payload => updateCommandFromAck records now payload
  | .error now _ payload => updateCommandFromError records now payload
  | .expire now => expireCommands records now

/-- Who reports, and on which type of command. -/
def LedgerStep.reporter : LedgerStep → Option (EndpointId × String)
  | .ack _ endpointId payload => some (endpointId, payload.commandType)
  | .error _ endpointId payload => some (endpointId, payload.commandType)
  | _ => none

/-- A status after which nothing is expected any more. -/
def CommandStatus.isTerminal : CommandStatus → Bool
  | .succeeded | .unsupported | .failed | .timedOut => true
  | .pending | .accepted | .started => false

/-- The record says `terminal` where its status does. -/
def CommandLedger.WellFormed (records : CommandLedger) : Prop :=
  ∀ id, ∀ record ∈ records.get id, record.terminal = record.status.isTerminal

/-- A push takes no id of a terminal record, and a report is on a command of the endpoint and
of its type, and where that is terminal, says what its record says. -/
def OwnReport (records : CommandLedger) : LedgerStep → Prop
  | .push _ requestId .. => ∀ record ∈ records.get requestId, record.terminal = false
  | .ack _ endpointId payload => ∀ record ∈ records.get payload.requestId,
    record.endpointId = endpointId ∧ record.commandType = payload.commandType ∧
      (record.terminal = true → record.status = payload.status.commandStatus)
  | .error _ endpointId payload => ∀ record ∈ records.get payload.requestId,
    record.endpointId = endpointId ∧ record.commandType = payload.commandType ∧
      (record.terminal = true → record.status = .failed)
  | .expire _ => True

instance (records : CommandLedger) : (step : LedgerStep) → Decidable (OwnReport records step)
  | .push _ requestId .. =>
    inferInstanceAs (Decidable (∀ record ∈ records.get requestId, record.terminal = false))
  | .ack _ endpointId payload =>
    inferInstanceAs (Decidable (∀ record ∈ records.get payload.requestId,
      record.endpointId = endpointId ∧ record.commandType = payload.commandType ∧
        (record.terminal = true → record.status = payload.status.commandStatus)))
  | .error _ endpointId payload =>
    inferInstanceAs (Decidable (∀ record ∈ records.get payload.requestId,
      record.endpointId = endpointId ∧ record.commandType = payload.commandType ∧
        (record.terminal = true → record.status = .failed)))
  | .expire _ => isTrue trivial

/-- A record that is terminal is still there after the writes, terminal and with its status. -/
def TerminalStays (records : CommandLedger) (later : List LedgerStep) : Prop :=
  ∀ id, ∀ record ∈ records.get id, record.terminal = true →
    ∃ record' ∈ (run CommandLedger.write records later).get id,
      record'.status = record.status ∧ record'.terminal = true

/-- A report changes a record of the reporting endpoint and of the reported type only. -/
def ChangesOwn (records : CommandLedger) (step : LedgerStep) : Prop :=
  ∀ reporter ∈ step.reporter, ∀ id, ∀ record ∈ records.get id,
    (records.write step).get id ≠ some record →
      reporter = (record.endpointId, record.commandType)

section runs

variable {records : CommandLedger} {step : LedgerStep} {id : String} {record : CommandRecord}

theorem CommandRecord.expired_of_terminal (now : ℤ) (h : record.terminal = true) :
    record.expired now = record := by
  simp [expired, h]

theorem CommandRecord.expired_wellFormed (now : ℤ)
    (h : record.terminal = record.status.isTerminal) :
    (record.expired now).terminal = (record.expired now).status.isTerminal := by
  unfold expired
  split_ifs <;> first | rfl | exact h

theorem AckStatus.isTerminal_commandStatus (status : AckStatus) :
    status.commandStatus.isTerminal = (status = .succeeded || status = .unsupported) := by
  cases status <;> rfl

/-- **The step lemma**: a record says `terminal` where its status does. -/
theorem CommandLedger.WellFormed.write (h : records.WellFormed) (step : LedgerStep) :
    (records.write step).WellFormed := by
  intro id record hrecord
  cases step with
  | push now requestId endpointId commandType eventType timeout =>
    rw [CommandLedger.write, get_recordCommand] at hrecord
    split at hrecord
    · cases hrecord
      rfl
    · exact h id record hrecord
  | ack now endpointId payload =>
    rw [CommandLedger.write, get_updateCommandFromAck] at hrecord
    split at hrecord
    · obtain ⟨old, -, rfl⟩ := Option.map_eq_some_iff.mp hrecord
      exact (AckStatus.isTerminal_commandStatus payload.status).symm
    · exact h id record hrecord
  | error now endpointId payload =>
    rw [CommandLedger.write, get_updateCommandFromError] at hrecord
    split at hrecord
    · obtain ⟨old, -, rfl⟩ := Option.map_eq_some_iff.mp hrecord
      rfl
    · exact h id record hrecord
  | expire now =>
    rw [CommandLedger.write, get_expireCommands] at hrecord
    obtain ⟨old, hold, rfl⟩ := Option.map_eq_some_iff.mp hrecord
    exact CommandRecord.expired_wellFormed now (h id old hold)

/-- **The step lemma**: a terminal record keeps its status. -/
theorem terminalStays_write (h : records.WellFormed) (hown : OwnReport records step)
    (hrecord : records.get id = some record) (hterminal : record.terminal = true) :
    ∃ record' ∈ (records.write step).get id,
      record'.status = record.status ∧ record'.terminal = true := by
  have hstatus : record.status.isTerminal = true := (h id record hrecord).symm.trans hterminal
  cases step with
  | push now requestId endpointId commandType eventType timeout =>
    have hid : id ≠ requestId := by
      rintro rfl
      have hopen := hown record hrecord
      rw [hopen] at hterminal
      cases hterminal
    refine ⟨record, ?_, rfl, hterminal⟩
    rw [CommandLedger.write, get_recordCommand, if_neg hid]
    exact hrecord
  | ack now endpointId payload =>
    rw [CommandLedger.write, get_updateCommandFromAck]
    split
    · next hid =>
      subst hid
      obtain ⟨-, -, hsame⟩ := hown record hrecord
      rw [hrecord]
      refine ⟨_, rfl, (hsame hterminal).symm, ?_⟩
      rw [hsame hterminal, AckStatus.isTerminal_commandStatus] at hstatus
      exact hstatus
    · exact ⟨record, hrecord, rfl, hterminal⟩
  | error now endpointId payload =>
    rw [CommandLedger.write, get_updateCommandFromError]
    split
    · next hid =>
      subst hid
      obtain ⟨-, -, hsame⟩ := hown record hrecord
      rw [hrecord]
      exact ⟨_, rfl, (hsame hterminal).symm, rfl⟩
    · exact ⟨record, hrecord, rfl, hterminal⟩
  | expire now =>
    rw [CommandLedger.write, get_expireCommands, hrecord]
    exact ⟨_, rfl, by rw [CommandRecord.expired_of_terminal now hterminal], by
      rw [CommandRecord.expired_of_terminal now hterminal, hterminal]⟩

theorem changesOwn_of_ownReport (hown : OwnReport records step) : ChangesOwn records step := by
  intro reporter hreporter id record hrecord hchanged
  cases step with
  | push | expire => cases hreporter
  | ack now endpointId payload =>
    cases hreporter
    rw [CommandLedger.write, get_updateCommandFromAck] at hchanged
    split at hchanged
    · next hid =>
      subst hid
      obtain ⟨hendpoint, htype, -⟩ := hown record hrecord
      rw [hendpoint, htype]
    · exact absurd hrecord hchanged
  | error now endpointId payload =>
    cases hreporter
    rw [CommandLedger.write, get_updateCommandFromError] at hchanged
    split at hchanged
    · next hid =>
      subst hid
      obtain ⟨hendpoint, htype, -⟩ := hown record hrecord
      rw [hendpoint, htype]
    · exact absurd hrecord hchanged

theorem terminalStays_run (h : records.WellFormed) {later : List LedgerStep}
    (hown : AllSteps CommandLedger.write OwnReport records later) : TerminalStays records later := by
  induction later generalizing records with
  | nil => exact fun id record hrecord hterminal => ⟨record, hrecord, rfl, hterminal⟩
  | cons step later ih =>
    intro id record hrecord hterminal
    obtain ⟨mid, hmid, hstatus, hterminal'⟩ := terminalStays_write h hown.1 hrecord hterminal
    obtain ⟨record', hrecord', hstatus', hterminal''⟩ := ih (h.write step) hown.2 id mid hmid hterminal'
    exact ⟨record', hrecord', hstatus'.trans hstatus, hterminal''⟩

end runs

/-- **Terminal records stay terminal.** -/
theorem terminal_stays (steps later : List LedgerStep)
    (hown : AllSteps CommandLedger.write OwnReport Dict.empty (steps ++ later)) :
    TerminalStays (run CommandLedger.write Dict.empty steps) later ∧
      AllSteps CommandLedger.write ChangesOwn (run CommandLedger.write Dict.empty steps) later := by
  obtain ⟨hsteps, hlater⟩ := (allSteps_append _ _ _).mp hown
  have hwellFormed : (run CommandLedger.write Dict.empty steps).WellFormed :=
    run_invariant (fun _ step h _ => h.write step) (by rintro id record ⟨⟩) hsteps
  exact ⟨terminalStays_run hwellFormed hlater, hlater.mono fun _ _ => changesOwn_of_ownReport⟩

/-- The volume of the kitchen is set, and the endpoint says that it was. -/
def volumeSet : List LedgerStep :=
  [.push 0 "cmd" "kitchen" "endpoint.volume.set" .endpointVolume commandTimeout,
    .ack 0 "kitchen" { requestId := "cmd", commandType := "endpoint.volume.set", status := .succeeded }]

theorem terminal_stays_volumeSet :
    TerminalStays (run CommandLedger.write Dict.empty volumeSet) [.expire 20000000] ∧
      AllSteps CommandLedger.write ChangesOwn (run CommandLedger.write Dict.empty volumeSet)
        [.expire 20000000] :=
  terminal_stays volumeSet [.expire 20000000] (by decide)

/-- An acknowledgement that arrives late reopens a record, and the sweep times it out. -/
theorem terminal_reopened :
    ¬ TerminalStays (run CommandLedger.write Dict.empty volumeSet)
      [.ack 0 "kitchen" { requestId := "cmd", commandType := "endpoint.volume.set", status := .accepted },
        .expire 20000000] := by
  intro h
  obtain ⟨record, hrecord, hstatus, -⟩ := h "cmd" _ rfl rfl
  cases hrecord
  cases hstatus

end HexeVoice.Voice
