import HexeVoice.Voice.CommandLedger

/-!
# Pushed commands and their acknowledgements

`_push_endpoint_command` and `push_ota_update` send a command's envelope and record the command
when the send returns. While they are suspended in it, the endpoint's receive loop runs.

## The model

`CommandDesk` is the ledger with the pushes that are suspended in `send_json`. `PushStep.send` is
a push up to its `await`, `PushStep.resume` the rest of it. The two ghost fields say which
envelopes were sent and which commands an endpoint reported to be done.

## What is proved

`none_lost`: where every reply comes after its command was recorded, it finds the record, and a
command that was reported done is never pending or timed out.
-/

namespace HexeVoice.Voice

open HexeVoice.Library

/-- A push that waits for `send_json` to return: what it will record. -/
structure CommandPush where
  requestId : String
  endpointId : EndpointId
  commandType : String
  eventType : VoiceEventType
  timeout : ℤ
  deriving DecidableEq

/-- `_push_endpoint_command`, with the default timeout. -/
def pushEndpointCommand (requestId : String) (endpointId : EndpointId)
    (eventType : VoiceEventType) (commandType : String) : CommandPush :=
  { requestId, endpointId, commandType, eventType, timeout := commandTimeout }

def pushOtaUpdate (requestId : String) (endpointId : EndpointId) : CommandPush :=
  { requestId, endpointId, commandType := "ota.update", eventType := .otaUpdate
    timeout := 180000000 }

/-- The ledger and the pushes on their way to it. -/
structure CommandDesk where
  records : CommandLedger := Dict.empty
  /-- The pushes that are suspended in `send_json`. -/
  sending : List CommandPush := []
  -- ghost
  sent : List (EndpointId × String) := []
  done : List String := []

/-- What can happen next. -/
inductive PushStep where
  /-- A push sends its envelope. -/
  | send (push : CommandPush)
  /-- `send_json` returns, and the push records the command. -/
  | resume (now : ℤ) (push : CommandPush)
  /-- `command.ack` from the endpoint. -/
  | ack (now : ℤ) (endpointId : EndpointId) (payload : VoiceCommandAckPayload)
  /-- `command.error` from the endpoint. -/
  | error (now : ℤ) (endpointId : EndpointId) (payload : VoiceCommandErrorPayload)
  /-- `_expire_commands`. -/
  | expire (now : ℤ)

namespace CommandDesk

variable (d : CommandDesk)

/-- The desk after a step. -/
def step : PushStep → CommandDesk
  | .send push =>
    { d with
      sending := d.sending ++ [push]
      sent := d.sent ++ [(push.endpointId, push.requestId)] }
  | .resume now push =>
    if push ∈ d.sending then
      { d with
        sending := d.sending.erase push
        records := recordCommand d.records now push.requestId push.endpointId push.commandType
          push.eventType push.timeout }
    else d
  | .ack now _ payload =>
    { d with
      records := updateCommandFromAck d.records now payload
      done := d.done ++ if payload.status = .succeeded then [payload.requestId] else [] }
  | .error now _ payload =>
    { d with
      records := updateCommandFromError d.records now payload
      done := d.done ++ [payload.requestId] }
  | .expire now => { d with records := expireCommands d.records now }

end CommandDesk

/-- The request that a reply is for, and who replies. -/
def PushStep.reply : PushStep → Option (EndpointId × String)
  | .ack _ endpointId payload => some (endpointId, payload.requestId)
  | .error _ endpointId payload => some (endpointId, payload.requestId)
  | _ => none

/-- An endpoint replies to an envelope that was sent to it. -/
def RepliesToSent (d : CommandDesk) (step : PushStep) : Prop := ∀ reply ∈ step.reply, reply ∈ d.sent

/-- A push has an id of its own, and replies come in order: after the push that they are for has
recorded its command, and no progress is reported on a command that is done. -/
def RepliesInOrder (d : CommandDesk) : PushStep → Prop
  | .send push => push.requestId ∉ d.sent.map Prod.snd
  | .ack _ _ payload => payload.requestId ∉ d.sending.map (·.requestId) ∧
    (payload.requestId ∈ d.done → payload.status.commandStatus.isTerminal = true)
  | .error _ _ payload => payload.requestId ∉ d.sending.map (·.requestId)
  | .resume .. | .expire _ => True

instance (d : CommandDesk) (step : PushStep) : Decidable (RepliesToSent d step) :=
  inferInstanceAs (Decidable (∀ reply ∈ step.reply, reply ∈ d.sent))

instance (d : CommandDesk) : (step : PushStep) → Decidable (RepliesInOrder d step)
  | .send push => inferInstanceAs (Decidable (push.requestId ∉ d.sent.map Prod.snd))
  | .ack _ _ payload => inferInstanceAs (Decidable (payload.requestId ∉ d.sending.map (·.requestId) ∧
    (payload.requestId ∈ d.done → payload.status.commandStatus.isTerminal = true)))
  | .error _ _ payload =>
    inferInstanceAs (Decidable (payload.requestId ∉ d.sending.map (·.requestId)))
  | .resume .. | .expire _ => isTrue trivial

/-- A reply finds the record of its command. -/
def FindsRecord (d : CommandDesk) (step : PushStep) : Prop :=
  ∀ reply ∈ step.reply, (d.records.get reply.2).isSome = true

/-- A command that was reported done is neither pending nor timed out. -/
def DoneIsDone (d : CommandDesk) : Prop :=
  ∀ id ∈ d.done, ∃ record ∈ d.records.get id, record.status ≠ .pending ∧ record.status ≠ .timedOut

/-! ### The invariant -/

/-- What was sent is on its way to its record, or has it; what was reported done has it, as
settled. -/
structure CommandDesk.Kept (d : CommandDesk) : Prop where
  sending : ∀ push ∈ d.sending, push.requestId ∈ d.sent.map Prod.snd
  recorded : ∀ id ∈ d.sent.map Prod.snd,
    id ∈ d.sending.map (·.requestId) ∨ (d.records.get id).isSome = true
  sent : ∀ id ∈ d.done, id ∈ d.sent.map Prod.snd
  settled : ∀ id ∈ d.done, id ∉ d.sending.map (·.requestId)
  status : ∀ id ∈ d.done, ∃ record ∈ d.records.get id,
    record.terminal = true ∧ record.status ≠ .pending ∧ record.status ≠ .timedOut

namespace CommandDesk

variable {d : CommandDesk} {next : PushStep}

theorem init_kept : ({} : CommandDesk).Kept :=
  ⟨by simp, by simp, by simp, by simp, by simp⟩

/-- A reply finds its record. -/
theorem Kept.findsRecord (h : d.Kept) (hsent : RepliesToSent d next)
    (horder : RepliesInOrder d next) : FindsRecord d next := by
  intro reply hreply
  have hmem : reply.2 ∈ d.sent.map Prod.snd := List.mem_map_of_mem (hsent reply hreply)
  rcases h.recorded _ hmem with hsending | hfound
  · cases next with
    | ack =>
      cases hreply
      exact absurd hsending horder.1
    | error =>
      cases hreply
      exact absurd hsending horder
    | _ => cases hreply
  · exact hfound

/-- A reply, which writes no record but its own and settles it if it is done. -/
theorem Kept.reply (h : d.Kept) {records : CommandLedger} {id : String} {settles : List String}
    (hid : id ∈ d.sent.map Prod.snd) (hrecorded : id ∉ d.sending.map (·.requestId))
    (hsettles : settles ⊆ [id])
    (hothers : ∀ id', id' ≠ id → records.get id' = d.records.get id')
    (hfound : (d.records.get id).isSome = true → (records.get id).isSome = true)
    (hstatus : id ∈ d.done ++ settles → ∃ record ∈ records.get id,
      record.terminal = true ∧ record.status ≠ .pending ∧ record.status ≠ .timedOut) :
    CommandDesk.Kept { d with records, done := d.done ++ settles } where
  sending := h.sending
  recorded := by
    intro id' hid'
    refine (h.recorded id' hid').imp_right fun hsome => ?_
    by_cases heq : id' = id
    · subst heq
      exact hfound hsome
    · simpa only [hothers id' heq] using hsome
  sent := by
    intro id' hid'
    rcases List.mem_append.mp hid' with hold | hnew
    · exact h.sent id' hold
    · rw [List.mem_singleton.mp (hsettles hnew)]
      exact hid
  settled := by
    intro id' hid'
    rcases List.mem_append.mp hid' with hold | hnew
    · exact h.settled id' hold
    · rw [List.mem_singleton.mp (hsettles hnew)]
      exact hrecorded
  status := by
    intro id' hid'
    by_cases heq : id' = id
    · subst heq
      exact hstatus hid'
    · simp only [hothers id' heq]
      rcases List.mem_append.mp hid' with hold | hnew
      · exact h.status id' hold
      · exact absurd (List.mem_singleton.mp (hsettles hnew)) heq

/-- **The step lemma.** -/
theorem Kept.step (h : d.Kept) (hsent : RepliesToSent d next) (horder : RepliesInOrder d next) :
    (d.step next).Kept := by
  cases next with
  | send push =>
    constructor
    · intro p hp
      simp only [CommandDesk.step, List.map_append, List.mem_append] at hp ⊢
      rcases hp with hold | hnew
      · exact .inl (h.sending p hold)
      · rw [List.mem_singleton.mp hnew]
        exact .inr (List.mem_singleton_self _)
    · intro id hid
      simp only [CommandDesk.step, List.map_append, List.mem_append] at hid ⊢
      rcases hid with hold | hnew
      · exact (h.recorded id hold).imp_left .inl
      · exact .inl (.inr hnew)
    · intro id hid
      simp only [CommandDesk.step, List.map_append, List.mem_append]
      exact .inl (h.sent id hid)
    · intro id hid hsending
      simp only [CommandDesk.step, List.map_append, List.mem_append] at hsending
      rcases hsending with hold | hnew
      · exact h.settled id hid hold
      · -- a command that is done was sent before, so the new push has another id
        obtain rfl : id = push.requestId := by simpa using hnew
        exact horder (h.sent _ hid)
    · exact h.status
  | resume now push =>
    simp only [CommandDesk.step]
    split
    case isFalse => exact h
    case isTrue hpush =>
      have herase : ∀ id, id ∈ d.sending.map (·.requestId) → id ≠ push.requestId →
          id ∈ (d.sending.erase push).map (·.requestId) := by
        intro id hid hne
        obtain ⟨p, hp, rfl⟩ := List.mem_map.mp hid
        have hp' : p ≠ push := by
          rintro rfl
          exact hne rfl
        exact List.mem_map_of_mem ((List.mem_erase_of_ne hp').mpr hp)
      constructor
      · exact fun p hp => h.sending p (List.mem_of_mem_erase hp)
      · intro id hid
        simp only [get_recordCommand]
        split
        · exact .inr rfl
        · next hne => exact (h.recorded id hid).imp_left fun hold => herase id hold hne
      · exact h.sent
      · intro id hid hsending
        refine h.settled id hid ?_
        obtain ⟨p, hp, rfl⟩ := List.mem_map.mp hsending
        exact List.mem_map_of_mem (List.mem_of_mem_erase hp)
      · intro id hid
        have hne : id ≠ push.requestId := by
          rintro rfl
          exact h.settled _ hid (List.mem_map_of_mem hpush)
        simp only [get_recordCommand, if_neg hne]
        exact h.status id hid
  | ack now endpointId payload =>
    have hfound : (d.records.get payload.requestId).isSome = true :=
      h.findsRecord hsent horder (endpointId, payload.requestId) rfl
    obtain ⟨record, hrecord⟩ := Option.isSome_iff_exists.mp hfound
    refine h.reply (List.mem_map_of_mem (hsent _ rfl)) horder.1 ?_ ?_ ?_ ?_
    · split
      · exact List.Subset.refl _
      · exact List.nil_subset _
    · intro id' hne
      rw [get_updateCommandFromAck, if_neg hne]
    · rw [get_updateCommandFromAck, if_pos rfl]
      simp
    · intro hdone
      have hstatus : payload.status.commandStatus.isTerminal = true := by
        rcases List.mem_append.mp hdone with hold | hnew
        · exact horder.2 hold
        · split at hnew
          · next hsucceeded => rw [hsucceeded]; rfl
          · cases hnew
      rw [get_updateCommandFromAck, if_pos rfl, hrecord]
      rw [AckStatus.isTerminal_commandStatus] at hstatus
      refine ⟨_, rfl, hstatus, ?_, ?_⟩ <;> cases payload.status <;> simp [AckStatus.commandStatus]
  | error now endpointId payload =>
    have hfound : (d.records.get payload.requestId).isSome = true :=
      h.findsRecord hsent horder (endpointId, payload.requestId) rfl
    obtain ⟨record, hrecord⟩ := Option.isSome_iff_exists.mp hfound
    refine h.reply (List.mem_map_of_mem (hsent _ rfl)) horder (List.Subset.refl _) ?_ ?_ ?_
    · intro id' hne
      rw [get_updateCommandFromError, if_neg hne]
    · rw [get_updateCommandFromError, if_pos rfl]
      simp
    · intro _
      rw [get_updateCommandFromError, if_pos rfl, hrecord]
      exact ⟨_, rfl, rfl, by simp, by simp⟩
  | expire now =>
    refine ⟨h.sending, ?_, h.sent, h.settled, ?_⟩
    · intro id hid
      simpa [CommandDesk.step, get_expireCommands] using h.recorded id hid
    · intro id hid
      obtain ⟨record, hrecord, hterminal, hstatus⟩ := h.status id hid
      refine ⟨record, ?_, hterminal, hstatus⟩
      simp only [CommandDesk.step, get_expireCommands, Option.mem_def.mp hrecord]
      simp [CommandRecord.expired_of_terminal now hterminal]

end CommandDesk

/-- **No acknowledgement is lost.** -/
theorem none_lost (steps : List PushStep)
    (hok : AllSteps CommandDesk.step (fun d step => RepliesToSent d step ∧ RepliesInOrder d step) {}
      steps) :
    AllSteps CommandDesk.step FindsRecord {} steps ∧ DoneIsDone (run CommandDesk.step {} steps) := by
  have hsteps : ∀ d : CommandDesk, d.Kept →
      AllSteps CommandDesk.step (fun d step => RepliesToSent d step ∧ RepliesInOrder d step) d
        steps →
      AllSteps CommandDesk.step FindsRecord d steps := by
    clear hok
    induction steps with
    | nil => exact fun _ _ _ => trivial
    | cons step steps ih =>
      exact fun d hd hok => ⟨hd.findsRecord hok.1.1 hok.1.2, ih _ (hd.step hok.1.1 hok.1.2) hok.2⟩
  have hkept : (run CommandDesk.step {} steps).Kept :=
    run_invariant (fun _ _ hd hok => hd.step hok.1 hok.2) CommandDesk.init_kept hok
  refine ⟨hsteps {} CommandDesk.init_kept hok, fun id hid => ?_⟩
  obtain ⟨record, hrecord, -, hstatus⟩ := hkept.status id hid
  exact ⟨record, hrecord, hstatus⟩

/-- The volume of the kitchen is set. -/
def volumePush : CommandPush :=
  pushEndpointCommand "cmd" "kitchen" .endpointVolume "endpoint.volume.set"

/-- The kitchen says that its volume was set. -/
def volumeAck : PushStep :=
  .ack 0 "kitchen" { requestId := "cmd", commandType := "endpoint.volume.set", status := .succeeded }

theorem none_lost_volume :
    AllSteps CommandDesk.step FindsRecord {}
        [.send volumePush, .resume 0 volumePush, volumeAck, .expire 20000000] ∧
      DoneIsDone (run CommandDesk.step {}
        [.send volumePush, .resume 0 volumePush, volumeAck, .expire 20000000]) :=
  none_lost _ (by decide)

/-- The acknowledgement arrives while the push is still suspended: it finds no record, and the
command times out. -/
theorem ack_lost :
    ¬ (AllSteps CommandDesk.step FindsRecord {}
        [.send volumePush, volumeAck, .resume 0 volumePush, .expire 20000000] ∧
      DoneIsDone (run CommandDesk.step {}
        [.send volumePush, volumeAck, .resume 0 volumePush, .expire 20000000])) := by
  rintro ⟨-, h⟩
  obtain ⟨record, hrecord, -, hstatus⟩ := h "cmd" (List.mem_singleton_self _)
  cases hrecord
  exact hstatus rfl

end HexeVoice.Voice
