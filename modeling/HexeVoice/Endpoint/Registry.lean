import HexeVoice.Library.Json
import HexeVoice.Library.Machine
import HexeVoice.Library.Text

/-!
# The endpoint registry

The operations of `endpoint/service.py` and `endpoint/discovery.py` on the endpoint registry.

## The model

Each operation loads the registry, works on it and saves it without an await in between, so it is one
step. Timestamps are microseconds; `isoformat` and `fromisoformat` are each other's inverse on them.
What the pairing checker answers, and what the clock shows at each reading, is part of the input.

## What is proved

**`settings_survive_iff`**: the registry holds what the operator last set for every endpoint, after
every step of a run, exactly if no discovery offer is accepted for a registered endpoint that has an
audience mode other than general or the adult override.
-/

namespace HexeVoice.Endpoint.Registry

open HexeVoice.Library

/-! ### Records and requests -/

inductive AudienceMode where
  | general | childSafe | teenSafe | adultUnrestricted
  deriving DecidableEq

inductive DeviceState where
  | idle | listening | thinking | speaking | ota | offline
  deriving DecidableEq

inductive ConnectionState where
  | online | stale | offline
  deriving DecidableEq

structure EndpointRegistryRecord where
  endpointId : String
  hardwareId : Option String := none
  displayName : Option String := none
  zoneId : Option String := none
  audienceMode : AudienceMode := .general
  adultOverrideEnabled : Bool := false
  deviceState : DeviceState := .offline
  sessionId : Option String := none
  firmwareVersion : Option String := none
  ipAddress : Option String := none
  rssiDbm : Option ℤ := none
  capabilities : JsonObject := Dict.empty
  firstSeenAt : ℤ
  lastSeenAt : ℤ
  operatorUpdatedAt : Option ℤ := none
  updatedAt : ℤ

/-- The endpoints of `PersistedEndpointRegistry`. -/
abbrev Endpoints := Dict String EndpointRegistryRecord

/-- `EndpointHeartbeatRequest`; `capabilities` is `none` if it is not in `model_fields_set`. -/
structure EndpointHeartbeatRequest where
  endpointId : String
  hardwareId : Option String := none
  deviceState : DeviceState := .idle
  sessionId : Option String := none
  firmwareVersion : Option String := none
  ipAddress : Option String := none
  rssiDbm : Option ℤ := none
  capabilities : Option JsonObject := none

structure EndpointDiscoveryRequest where
  endpointId : String
  deviceId : Option String := none
  onboardingSessionId : Option String := none
  hardwareId : Option String := none
  boardProfile : Option String := none
  displayName : Option String := none
  firmwareVersion : Option String := none
  applicationType : Option String := none
  capabilities : JsonObject := Dict.empty

/-- `EndpointMetadataUpdateRequest`; a field is `none` if it is not in `model_fields_set`. -/
structure EndpointMetadataUpdateRequest where
  displayName : Option (Option String) := none
  zoneId : Option (Option String) := none
  audienceMode : Option (Option AudienceMode) := none
  adultOverrideEnabled : Option (Option Bool) := none

/-! ### Heartbeats -/

/-- `a or b`. -/
def orText (a b : Option String) : Option String := if a.getD "" = "" then b else a

/-- `record_heartbeat` at `now`. -/
def recordHeartbeat (endpoints : Endpoints) (payload : EndpointHeartbeatRequest) (now : ℤ) :
    Endpoints :=
  let existing := endpoints.get payload.endpointId
  endpoints.set payload.endpointId
    { endpointId := payload.endpointId
      hardwareId := orText payload.hardwareId (existing.bind (·.hardwareId))
      displayName := existing.bind (·.displayName)
      zoneId := existing.bind (·.zoneId)
      audienceMode := (existing.map (·.audienceMode)).getD .general
      adultOverrideEnabled := (existing.map (·.adultOverrideEnabled)).getD false
      deviceState := payload.deviceState
      sessionId := payload.sessionId
      firmwareVersion := orText payload.firmwareVersion (existing.bind (·.firmwareVersion))
      ipAddress := orText payload.ipAddress (existing.bind (·.ipAddress))
      rssiDbm := payload.rssiDbm <|> existing.bind (·.rssiDbm)
      capabilities := payload.capabilities.getD ((existing.map (·.capabilities)).getD Dict.empty)
      firstSeenAt := (existing.map (·.firstSeenAt)).getD now
      lastSeenAt := now
      operatorUpdatedAt := existing.bind (·.operatorUpdatedAt)
      updatedAt := now }

/-! ### Discovery offers -/

/-- What `ble_pairing_approval_checker` answers. -/
structure Approval where
  /-- Whether `approval.get("approved")` is true. -/
  approved : Bool
  /-- `approval.get("reason")`, empty if there is none. -/
  reason : String := ""

/-- The checker, which may raise an exception. -/
abbrev ApprovalChecker := String → String → Option Approval

def blePairingApproval (checker : Option ApprovalChecker) (sessionId deviceId : String) : Approval :=
  if deviceId = "" then ⟨false, "ble_pairing_device_id_missing"⟩
  else match checker with
    | none => ⟨false, "ble_pairing_checker_unavailable"⟩
    | some check => (check sessionId deviceId).getD ⟨false, "ble_pairing_approval_check_failed"⟩

/-- `_connection_state` when the clock shows `clock`. -/
def connectionState (staleAfterSeconds : ℤ) (record : EndpointRegistryRecord) (clock : ℤ) :
    ConnectionState :=
  if record.deviceState = .offline then .offline
  else if clock - record.lastSeenAt > staleAfterSeconds * 1000000 then .stale
  else .online

inductive PairingState where
  | paired | staleRecovered | duplicateOnline | invalidRequest
  deriving DecidableEq

/-- `EndpointDiscoveryResponse`, without where it advertises the backend. -/
structure EndpointDiscoveryResponse where
  accepted : Bool
  endpointId : String
  pairingState : PairingState
  reason : Option String := none
  serverTime : ℤ
  deriving DecidableEq

/-- The readings of the clock during an offer. -/
structure Clock where
  now : ℤ
  duplicate : ℤ
  pairing : ℤ

/-- Why the pairing session of an offer is refused, if it is. -/
def pairingRefusal (checker : Option ApprovalChecker) (payload : EndpointDiscoveryRequest) :
    Option String :=
  let pairingSessionId := strip (payload.onboardingSessionId.getD "")
  let deviceId := strip ((orText payload.deviceId (some payload.endpointId)).getD "")
  if pairingSessionId = "" then none
  else
    let approval := blePairingApproval checker pairingSessionId deviceId
    if approval.approved then none
    else some (if approval.reason = "" then "ble_pairing_not_approved" else approval.reason)

def duplicateOnline (staleAfterSeconds : ℤ) (existing : Option EndpointRegistryRecord)
    (sourceIp : Option String) (clock : ℤ) : Bool :=
  match existing with
  | none => false
  | some record =>
    connectionState staleAfterSeconds record clock = .online ∧ sourceIp.getD "" ≠ "" ∧
      record.ipAddress.getD "" ≠ "" ∧ record.ipAddress ≠ sourceIp

/-- `if value: capabilities[key] = value`. -/
def setText (capabilities : JsonObject) (key : String) (value : Option String) : JsonObject :=
  match value with
  | none => capabilities
  | some value => if value = "" then capabilities else capabilities.set key (.str value)

/-- The capabilities of an accepted offer. -/
def offeredCapabilities (existing : Option EndpointRegistryRecord)
    (payload : EndpointDiscoveryRequest) : JsonObject :=
  let capabilities := (existing.map (·.capabilities)).getD Dict.empty
  let capabilities := payload.capabilities.entries.foldl (fun c e => c.set e.1 e.2) capabilities
  let capabilities := setText capabilities "device_id" payload.deviceId
  let capabilities := setText capabilities "onboarding_session_id" payload.onboardingSessionId
  let capabilities := setText capabilities "board_profile" payload.boardProfile
  setText capabilities "application_type" payload.applicationType

/-- The record of an accepted offer. -/
def offeredRecord (existing : Option EndpointRegistryRecord) (payload : EndpointDiscoveryRequest)
    (sourceIp : Option String) (now : ℤ) : EndpointRegistryRecord :=
  -- audience_mode and adult_override_enabled are not given, so they have their defaults.
  { endpointId := payload.endpointId
    hardwareId := orText payload.hardwareId (existing.bind (·.hardwareId))
    displayName := match existing with
      | some record => record.displayName
      | none => payload.displayName
    zoneId := existing.bind (·.zoneId)
    deviceState := (existing.map (·.deviceState)).getD .idle
    sessionId := existing.bind (·.sessionId)
    firmwareVersion := orText payload.firmwareVersion (existing.bind (·.firmwareVersion))
    ipAddress := orText sourceIp (existing.bind (·.ipAddress))
    rssiDbm := existing.bind (·.rssiDbm)
    capabilities := offeredCapabilities existing payload
    firstSeenAt := (existing.map (·.firstSeenAt)).getD now
    lastSeenAt := now
    operatorUpdatedAt := existing.bind (·.operatorUpdatedAt)
    updatedAt := now }

def offer (staleAfterSeconds : ℤ) (checker : Option ApprovalChecker) (endpoints : Endpoints)
    (payload : EndpointDiscoveryRequest) (sourceIp : Option String) (clock : Clock) :
    Endpoints × EndpointDiscoveryResponse :=
  match pairingRefusal checker payload with
  | some reason =>
    (endpoints, ⟨false, payload.endpointId, .invalidRequest, some reason, clock.now⟩)
  | none =>
    let existing := endpoints.get payload.endpointId
    if duplicateOnline staleAfterSeconds existing sourceIp clock.duplicate then
      (endpoints, ⟨false, payload.endpointId, .duplicateOnline, some "endpoint_id_already_online",
        clock.now⟩)
    else
      let pairingState :=
        match existing with
        | some record =>
          if connectionState staleAfterSeconds record clock.pairing = .stale then .staleRecovered
          else .paired
        | none => .paired
      (endpoints.set payload.endpointId (offeredRecord existing payload sourceIp clock.now),
        ⟨true, payload.endpointId, pairingState, none, clock.now⟩)

/-! ### Operator metadata -/

def normalizedOptionalText (value : Option String) : Option String :=
  value.bind fun value => if strip value = "" then none else some (strip value)

/-- `record.model_copy(update=updates)` of `update_metadata`. -/
def updatedRecord (record : EndpointRegistryRecord) (payload : EndpointMetadataUpdateRequest)
    (now : ℤ) : EndpointRegistryRecord :=
  { record with
    operatorUpdatedAt := some now
    updatedAt := now
    displayName := (payload.displayName.map normalizedOptionalText).getD record.displayName
    zoneId := (payload.zoneId.map normalizedOptionalText).getD record.zoneId
    audienceMode := payload.audienceMode.join.getD record.audienceMode
    adultOverrideEnabled := payload.adultOverrideEnabled.join.getD record.adultOverrideEnabled }

/-- `update_metadata`, which raises `endpoint_not_found`. -/
def updateMetadata (endpoints : Endpoints) (endpointId : String)
    (payload : EndpointMetadataUpdateRequest) (now : ℤ) :
    Except String (Endpoints × EndpointRegistryRecord) :=
  match endpoints.get endpointId with
  | none => .error "endpoint_not_found"
  | some record =>
    let updated := updatedRecord record payload now
    .ok (endpoints.set endpointId updated, updated)

/-- `delete`, which raises `endpoint_not_found`. -/
def delete (endpoints : Endpoints) (endpointId : String) :
    Except String (Endpoints × EndpointRegistryRecord) :=
  match endpoints.get endpointId with
  | none => .error "endpoint_not_found"
  | some record => .ok (endpoints.erase endpointId, record)

/-! ### Runs -/

/-- What reaches the registry. -/
inductive Request where
  | heartbeat (payload : EndpointHeartbeatRequest) (now : ℤ)
  /-- An offer over HTTP, or a datagram whose payload is valid. -/
  | offer (checker : Option ApprovalChecker) (payload : EndpointDiscoveryRequest)
      (sourceIp : Option String) (clock : Clock)
  /-- A datagram whose payload is not valid. -/
  | invalidDatagram
  | updateMetadata (endpointId : String) (payload : EndpointMetadataUpdateRequest) (now : ℤ)
  | delete (endpointId : String)

/-- The registry after a request. -/
def step (staleAfterSeconds : ℤ) (endpoints : Endpoints) : Request → Endpoints
  | .heartbeat payload now => recordHeartbeat endpoints payload now
  | .offer checker payload sourceIp clock =>
    (offer staleAfterSeconds checker endpoints payload sourceIp clock).1
  | .invalidDatagram => endpoints
  | .updateMetadata endpointId payload now =>
    match updateMetadata endpoints endpointId payload now with
    | .ok (endpoints, _) => endpoints
    | .error _ => endpoints
  | .delete endpointId =>
    match delete endpoints endpointId with
    | .ok (endpoints, _) => endpoints
    | .error _ => endpoints

/-! ### What the operator set -/

/-- The settings of an endpoint that are the operator's. -/
structure OperatorSettings where
  displayName : Option String
  zoneId : Option String := none
  audienceMode : AudienceMode := .general
  adultOverrideEnabled : Bool := false
  operatorUpdatedAt : Option ℤ := none
  deriving DecidableEq

/-- The settings of every registered endpoint. -/
abbrev Settled := String → Option OperatorSettings

/-- What an update by the operator changes. -/
def OperatorSettings.update (settings : OperatorSettings) (payload : EndpointMetadataUpdateRequest)
    (now : ℤ) : OperatorSettings where
  displayName := (payload.displayName.map normalizedOptionalText).getD settings.displayName
  zoneId := (payload.zoneId.map normalizedOptionalText).getD settings.zoneId
  audienceMode := payload.audienceMode.join.getD settings.audienceMode
  adultOverrideEnabled := payload.adultOverrideEnabled.join.getD settings.adultOverrideEnabled
  operatorUpdatedAt := some now

/-- An endpoint that is not registered gets the initial settings, with a display name. -/
def Settled.register (settled : Settled) (endpointId : String) (displayName : Option String) :
    Settled :=
  Function.update settled endpointId (some ((settled endpointId).getD { displayName }))

/-- What a request is meant to do to the settings: devices register themselves, and only the
operator changes anything. -/
def settle (settled : Settled) : Request → Settled
  | .heartbeat payload _ => settled.register payload.endpointId none
  | .offer checker payload _ _ =>
    if pairingRefusal checker payload = none then
      settled.register payload.endpointId payload.displayName
    else settled
  | .invalidDatagram => settled
  | .updateMetadata endpointId payload now =>
    Function.update settled endpointId ((settled endpointId).map (·.update payload now))
  | .delete endpointId => Function.update settled endpointId none

/-- The operator's settings in a record. -/
def EndpointRegistryRecord.settings (record : EndpointRegistryRecord) : OperatorSettings where
  displayName := record.displayName
  zoneId := record.zoneId
  audienceMode := record.audienceMode
  adultOverrideEnabled := record.adultOverrideEnabled
  operatorUpdatedAt := record.operatorUpdatedAt

/-- The operator's settings that the registry holds. -/
def held (endpoints : Endpoints) : Settled := fun endpointId =>
  (endpoints.get endpointId).map (·.settings)

/-- An offer that is neither refused nor a duplicate finds no endpoint, or one with the general
audience mode and no override. -/
def OfferFindsGeneral (staleAfterSeconds : ℤ) (endpoints : Endpoints) : Request → Prop
  | .offer checker payload sourceIp clock =>
    pairingRefusal checker payload = none →
    ∀ record, endpoints.get payload.endpointId = some record →
    duplicateOnline staleAfterSeconds (some record) sourceIp clock.duplicate = false →
      record.audienceMode = .general ∧ record.adultOverrideEnabled = false
  | _ => True

/-! ### One step -/

theorem held_set (endpoints : Endpoints) (endpointId : String) (record : EndpointRegistryRecord) :
    held (endpoints.set endpointId record) =
      Function.update (held endpoints) endpointId (some record.settings) := by
  funext other
  by_cases h : other = endpointId
  · subst h
    simp [held]
  · simp [held, Dict.get_set, h]

theorem held_erase (endpoints : Endpoints) (endpointId : String) :
    held (endpoints.erase endpointId) = Function.update (held endpoints) endpointId none := by
  funext other
  by_cases h : other = endpointId
  · subst h
    simp [held, Dict.get_erase]
  · simp [held, Dict.get_erase, h]

/-- Registering an endpoint that is there changes nothing. -/
theorem register_of_held {settled : Settled} {endpointId : String} {settings : OperatorSettings}
    (h : settled endpointId = some settings) (displayName : Option String) :
    settled.register endpointId displayName = settled := by
  rw [Settled.register, h, Option.getD_some, ← h]
  exact Function.update_eq_self endpointId settled

/-- A heartbeat keeps the settings of its endpoint. -/
theorem held_recordHeartbeat (endpoints : Endpoints) (payload : EndpointHeartbeatRequest)
    (now : ℤ) :
    held (recordHeartbeat endpoints payload now) =
      (held endpoints).register payload.endpointId none := by
  simp only [recordHeartbeat]
  rw [held_set, Settled.register]
  congr 2
  cases h : endpoints.get payload.endpointId <;>
    simp [held, h, EndpointRegistryRecord.settings]

/-- What an offer does to the settings. -/
theorem held_offer (staleAfterSeconds : ℤ) (checker : Option ApprovalChecker)
    (endpoints : Endpoints) (payload : EndpointDiscoveryRequest) (sourceIp : Option String)
    (clock : Clock) :
    held (step staleAfterSeconds endpoints (.offer checker payload sourceIp clock)) =
        settle (held endpoints) (.offer checker payload sourceIp clock) ↔
      OfferFindsGeneral staleAfterSeconds endpoints (.offer checker payload sourceIp clock) := by
  by_cases hpair : pairingRefusal checker payload = none
  · cases hget : endpoints.get payload.endpointId with
    | none =>
      -- A new endpoint is registered as it is meant to be.
      have hnew : held endpoints payload.endpointId = none := by simp [held, hget]
      simp [step, offer, settle, OfferFindsGeneral, hpair, hget, duplicateOnline, held_set,
        Settled.register, hnew, offeredRecord, EndpointRegistryRecord.settings]
    | some record =>
      have hold : held endpoints payload.endpointId = some record.settings := by
        simp [held, hget]
      have hsettle : settle (held endpoints) (.offer checker payload sourceIp clock) =
          held endpoints := by
        simp only [settle, hpair, if_true]
        exact register_of_held hold _
      rw [hsettle]
      cases hdup : duplicateOnline staleAfterSeconds (some record) sourceIp clock.duplicate with
      | true =>
        simp [step, offer, OfferFindsGeneral, hpair, hget, hdup]
      | false =>
        -- The rest of the settings is copied, so what is lost are the two defaults.
        have hstep : held (step staleAfterSeconds endpoints
            (.offer checker payload sourceIp clock)) =
            Function.update (held endpoints) payload.endpointId
              (some (offeredRecord (some record) payload sourceIp clock.now).settings) := by
          simp only [step, offer, hpair, hget, hdup, Bool.false_eq_true, if_false, held_set]
        rw [hstep, Function.update_eq_self_iff, hold]
        simp only [OfferFindsGeneral, hpair, hget, Option.some.injEq, true_implies, forall_eq', hdup,
          offeredRecord, EndpointRegistryRecord.settings, OperatorSettings.mk.injEq,
          Option.bind_some, true_and, and_true]
        exact and_congr eq_comm eq_comm
  · obtain ⟨reason, hreason⟩ := Option.ne_none_iff_exists'.mp hpair
    simp [step, offer, settle, OfferFindsGeneral, hreason]

/-- An update changes the settings of its endpoint. -/
theorem held_updateMetadata (staleAfterSeconds : ℤ) (endpoints : Endpoints) (endpointId : String)
    (payload : EndpointMetadataUpdateRequest) (now : ℤ) :
    held (step staleAfterSeconds endpoints (.updateMetadata endpointId payload now)) =
      settle (held endpoints) (.updateMetadata endpointId payload now) := by
  cases hget : endpoints.get endpointId with
  | none =>
    have hnone : held endpoints endpointId = none := by simp [held, hget]
    simp only [step, updateMetadata, hget, settle, hnone, Option.map_none]
    exact (Function.update_eq_self_iff.mpr hnone.symm).symm
  | some record =>
    simp [step, updateMetadata, hget, settle, held_set, updatedRecord, held,
      EndpointRegistryRecord.settings, OperatorSettings.update]

theorem held_delete (staleAfterSeconds : ℤ) (endpoints : Endpoints) (endpointId : String) :
    held (step staleAfterSeconds endpoints (.delete endpointId)) =
      settle (held endpoints) (.delete endpointId) := by
  cases hget : endpoints.get endpointId with
  | none =>
    have hnone : held endpoints endpointId = none := by simp [held, hget]
    simp only [step, delete, hget, settle]
    exact (Function.update_eq_self_iff.mpr hnone.symm).symm
  | some record =>
    simp [step, delete, hget, settle, held_erase]

/-- **The step lemma**: a step does what it is meant to exactly if it is no offer that resets a
registered endpoint. -/
theorem held_step_iff (staleAfterSeconds : ℤ) (endpoints : Endpoints) (request : Request) :
    held (step staleAfterSeconds endpoints request) = settle (held endpoints) request ↔
      OfferFindsGeneral staleAfterSeconds endpoints request := by
  cases request with
  | heartbeat payload now =>
    simp only [OfferFindsGeneral, iff_true]
    exact held_recordHeartbeat endpoints payload now
  | offer checker payload sourceIp clock =>
    exact held_offer staleAfterSeconds checker endpoints payload sourceIp clock
  | invalidDatagram => simp [step, settle, OfferFindsGeneral]
  | updateMetadata endpointId payload now =>
    simp only [OfferFindsGeneral, iff_true]
    exact held_updateMetadata staleAfterSeconds endpoints endpointId payload now
  | delete endpointId =>
    simp only [OfferFindsGeneral, iff_true]
    exact held_delete staleAfterSeconds endpoints endpointId

/-! ### Whole runs -/

theorem settings_survive_from (staleAfterSeconds : ℤ) (endpoints : Endpoints)
    (requests : List Request) :
    (∀ taken, taken <+: requests →
        held (run (step staleAfterSeconds) endpoints taken) = run settle (held endpoints) taken) ↔
      AllSteps (step staleAfterSeconds) (OfferFindsGeneral staleAfterSeconds) endpoints
        requests := by
  apply related_throughout_iff (R := fun endpoints settled => held endpoints = settled)
    (A := fun _ _ => True)
  · rintro endpoints _ request rfl -
    exact held_step_iff staleAfterSeconds endpoints request
  · rfl
  · exact allSteps_of_forall (fun _ _ => trivial) endpoints requests

/-- **Operator settings survive.** -/
theorem settings_survive_iff (staleAfterSeconds : ℤ) (requests : List Request) :
    (∀ taken, taken <+: requests →
        held (run (step staleAfterSeconds) Dict.empty taken) = run settle (fun _ => none) taken) ↔
      AllSteps (step staleAfterSeconds) (OfferFindsGeneral staleAfterSeconds) Dict.empty
        requests := by
  have hempty : held Dict.empty = fun _ => none := by
    funext endpointId
    simp [held]
  rw [← hempty]
  exact settings_survive_from staleAfterSeconds Dict.empty requests

/-- The kitchen registers, is put into child-safe mode and offers itself again. -/
def offerAfterUpdate : List Request :=
  [.heartbeat { endpointId := "kitchen" } 1,
    .updateMetadata "kitchen" { audienceMode := some (some .childSafe) } 2,
    .offer none { endpointId := "kitchen" } none ⟨3, 3, 3⟩]

/-- The offer lifts the child-safe mode that the operator set. -/
theorem offer_lifts_childSafe :
    (held (run (step 60) Dict.empty offerAfterUpdate) "kitchen").map (·.audienceMode) =
        some .general ∧
      (run settle (fun _ => none) offerAfterUpdate "kitchen").map (·.audienceMode) =
        some .childSafe := by
  decide +kernel

end HexeVoice.Endpoint.Registry
