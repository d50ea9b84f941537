import HexeVoice.Firmware.Settings
import HexeVoice.Library.Interrupted

/-!
# Saving a provisioning that is interrupted

`save_endpoint_provisioning` of `system/settings.cpp`, where every operation on flash may fail or be where
power is lost, and what the next start reads.

## The model

Flash is a namespace of NVS, in which every value that is set is durable at once. The calls of `nvs_open`
and `nvs_commit` can fail as well.

## What is proved

**`saving_is_atomic_iff`**: however saving is interrupted, the next start reads all of the old or all of the
new provisioning, and that in force where the call returned false, exactly if the new one is rejected or in
force already. **`starts_old_or_new_iff`** says when the start alone is safe: at most one of the nine values
changes.
-/

namespace HexeVoice.Firmware.ProvisioningInterrupted

open HexeVoice.Library HexeVoice.Library.Interrupted HexeVoice.Firmware.Settings

/-- A call of `nvs_set_...`. -/
def writeStep (write : Nvs → Option Nvs) : Interrupted Nvs Bool :=
  attempt fun works store =>
    if works then ((write store).isSome, (write store).getD store) else (false, store)

/-- `nvs_open` and `nvs_commit`, which change nothing here. -/
def nvsOpen : Interrupted Nvs Bool := change id

def nvsCommit : Interrupted Nvs Bool := change id

/-- The checks of `save_endpoint_provisioning`. -/
def Rejected (settings : EndpointProvisioningSettings) : Prop :=
  settings.endpointId.text = .empty ∨ settings.backendHost.text = .empty ∨
    !validPort settings.httpPort ∨ !validPort settings.wsPort

instance (settings : EndpointProvisioningSettings) : Decidable (Rejected settings) :=
  inferInstanceAs (Decidable (_ ∨ _))

def saveEndpointProvisioning (settings : EndpointProvisioningSettings) : Interrupted Nvs Bool :=
  if Rejected settings then pure false
  else all (nvsOpen :: ((provisioningWrites settings).map writeStep ++ [nvsCommit]))

/-- The settings that run on after the call: it stores them where it returns true. -/
def running (old settings : EndpointProvisioningSettings) (returned : Bool) :
    EndpointProvisioningSettings :=
  if returned then { settings with configured := true } else old

/-- What `init_settings` reads. -/
def stored (config : Config) (flash : Flash) (store : Nvs) : EndpointProvisioningSettings :=
  (initSettings config { flash with settings := store }).endpoint

/-- However the call is interrupted, the next start reads all of the old or all of the new provisioning. -/
def StartsOldOrNew (config : Config) (flash : Flash) (settings : EndpointProvisioningSettings) : Prop :=
  ∀ fates,
    stored config flash (saveEndpointProvisioning settings flash.settings fates).storage =
        stored config flash flash.settings ∨
      stored config flash (saveEndpointProvisioning settings flash.settings fates).storage =
        { settings with configured := true }

/-- Where the call returns false, the settings that run on are those that the next start reads. -/
def AgreesOnFailure (config : Config) (flash : Flash) (settings : EndpointProvisioningSettings) : Prop :=
  ∀ fates, (saveEndpointProvisioning settings flash.settings fates).value? = some false →
    running (stored config flash flash.settings) settings false =
      stored config flash (saveEndpointProvisioning settings flash.settings fates).storage

/-! ### The writes -/

/-- The values that are set. -/
def provisioningValues (settings : EndpointProvisioningSettings) : List (String × NvsValue) :=
  [(kEndpointIdKey, .str settings.endpointId.text), (kDisplayNameKey, .str settings.displayName.text),
    (kBackendHostKey, .str settings.backendHost.text), (kHttpPortKey, .i32 settings.httpPort),
    (kWsPortKey, .i32 settings.wsPort), (kUseTlsKey, .u8 settings.useTls.toNat),
    (kWifiSsidKey, .str settings.wifiSsid.text), (kWifiPasswordKey, .str settings.wifiPassword.text),
    (kProvisionedKey, .u8 1)]

/-- Set a value. -/
def put (entry : String × NvsValue) (store : Nvs) : Nvs :=
  Function.update store entry.1 (some entry.2)

/-- The changes of the call, with those of opening and committing. -/
def changes (settings : EndpointProvisioningSettings) : List (Nvs → Nvs) :=
  id :: ((provisioningValues settings).map put ++ [id])

variable {config : Config} {flash : Flash} {settings : EndpointProvisioningSettings}

theorem provisioningWrites_eq (settings : EndpointProvisioningSettings) :
    provisioningWrites settings =
      (provisioningValues settings).map fun entry store => some (put entry store) := by
  simp (disch := decide) only [provisioningWrites, setStr_buffer, Nvs.setI32_eq, Nvs.setU8_eq]
  rfl

theorem writeStep_put (entry : String × NvsValue) :
    writeStep (fun store => some (put entry store)) = change (put entry) := by
  unfold writeStep change
  congr 1
  funext works store
  cases works <;> rfl

/-- The call makes its changes, one after the other. -/
theorem saveEndpointProvisioning_eq (h : ¬ Rejected settings) :
    saveEndpointProvisioning settings = all ((changes settings).map change) := by
  have hsteps : (provisioningWrites settings).map writeStep =
      ((provisioningValues settings).map put).map change := by
    rw [provisioningWrites_eq, List.map_map, List.map_map]
    exact List.map_congr_left fun entry _ => writeStep_put entry
  rw [saveEndpointProvisioning, if_neg h, hsteps, changes, List.map_cons, List.map_append]
  rfl

theorem writes_put (entries : List (String × NvsValue)) (store : Nvs) :
    store.writes (entries.map fun entry store => some (put entry store)) =
      (after entries.length (entries.map put) store, true) := by
  induction entries generalizing store with
  | nil => rfl
  | cons entry entries ih => exact ih (put entry store)

/-- The provisioning after the first `j` of its values are set. -/
def mixed (j : ℕ) (old new : EndpointProvisioningSettings) : EndpointProvisioningSettings where
  endpointId := if 0 < j then new.endpointId else old.endpointId
  displayName := if 1 < j then new.displayName else old.displayName
  backendHost := if 2 < j then new.backendHost else old.backendHost
  httpPort := if 3 < j then new.httpPort else old.httpPort
  wsPort := if 4 < j then new.wsPort else old.wsPort
  useTls := if 5 < j then new.useTls else old.useTls
  wifiSsid := if 6 < j then new.wifiSsid else old.wifiSsid
  wifiPassword := if 7 < j then new.wifiPassword else old.wifiPassword
  configured := if 8 < j then new.configured else old.configured

theorem loadFlag_update_one {store : Nvs} {key : String} (target : Bool) :
    loadFlag (Function.update store key (some (.u8 1))) key target = true :=
  loadFlag_update_self true target

/-- After `j` values the next start reads them, and the old ones for the others. -/
theorem stored_after_values (hhttp : validPort settings.httpPort = true)
    (hws : validPort settings.wsPort = true) {j : ℕ} (hj : j ≤ 9) (store : Nvs) :
    stored config flash (after j ((provisioningValues settings).map put) store) =
      mixed j (stored config flash store) { settings with configured := true } := by
  simp only [stored, initSettings, provisioningValues, List.map_cons, List.map_nil, after, mixed]
  interval_cases j <;>
    simp (disch := first | decide | assumption) only [List.take_succ_cons, List.take_zero,
      List.foldl_cons, List.foldl_nil, put, loadEndpointProvisioning, loadString_update_of_ne,
      loadString_update_self, loadPort_update_of_ne, loadPort_update_self, loadFlag_update_of_ne,
      loadFlag_update_self, loadFlag_update_one, Nat.reduceLT, if_true, if_false]

/-- What the next start reads after the first `j` changes. -/
theorem stored_after_changes (config : Config) (flash : Flash) (h : ¬ Rejected settings) {j : ℕ}
    (hj : j ≤ 11) :
    stored config flash (after j (changes settings) flash.settings) =
      mixed (min (j - 1) 9) (stored config flash flash.settings)
        { settings with configured := true } := by
  unfold Rejected at h
  simp only [not_or, Bool.not_eq_true, Bool.not_eq_false'] at h
  obtain ⟨-, -, hhttp, hws⟩ := h
  rw [← stored_after_values hhttp hws (min_le_right _ _)]
  congr 1
  interval_cases j <;> rfl

theorem mixed_nine (old new : EndpointProvisioningSettings) : mixed 9 old new = new := rfl

theorem mixed_self (j : ℕ) (old : EndpointProvisioningSettings) : mixed j old old = old := by
  simp only [mixed, ite_self]

/-! ### Atomicity -/

/-- Where the call may be interrupted, and what the next start then reads. -/
theorem ending_cases (config : Config) (flash : Flash) (h : ¬ Rejected settings) (fates : ℕ → Fate) :
    ∃ j ≤ 9, stored config flash
        (saveEndpointProvisioning settings flash.settings fates).storage =
      mixed j (stored config flash flash.settings) { settings with configured := true } := by
  have hmeets : Meets (all ((changes settings).map change)) (· = flash.settings)
      (fun store => ∃ j ≤ 11, store = after j (changes settings) flash.settings)
      fun _ store => ∃ j ≤ 11, store = after j (changes settings) flash.settings := by
    apply (meets_changes (changes settings) flash.settings).mono
    · exact fun _ h => h
    · exact fun _ h => h
    · rintro ok store ⟨j, hle, hstore, -⟩
      exact ⟨j, hle, hstore⟩
  obtain ⟨j, hj, hstore⟩ := hmeets.storage rfl fates
  rw [saveEndpointProvisioning_eq h, hstore, stored_after_changes config flash h hj]
  exact ⟨min (j - 1) 9, min_le_right _ _, rfl⟩

/-- Power may be lost after any number of the values. -/
theorem exists_ending (config : Config) (flash : Flash) (h : ¬ Rejected settings) {j : ℕ}
    (hj : j ≤ 9) :
    ∃ fates, (saveEndpointProvisioning settings flash.settings fates).value? = some false ∧
      stored config flash (saveEndpointProvisioning settings flash.settings fates).storage =
        mixed j (stored config flash flash.settings) { settings with configured := true } := by
  have hlength : (changes settings).length = 11 := rfl
  obtain ⟨fates, hfates⟩ := canReturn_changes_false
    (show j + 1 < (changes settings).length by omega) flash.settings fun _ => .works
  refine ⟨fates, ?_⟩
  rw [saveEndpointProvisioning_eq h, hfates]
  refine ⟨rfl, ?_⟩
  have hstored := stored_after_changes config flash h
    (show j + 1 ≤ 11 by omega)
  rwa [Nat.add_sub_cancel, min_eq_left hj] at hstored

/-- Which of the nine values are those of the old provisioning, in the order of the writes. -/
def agreeing (old new : EndpointProvisioningSettings) : List Bool :=
  [old.endpointId = new.endpointId, old.displayName = new.displayName,
    old.backendHost = new.backendHost, old.httpPort = new.httpPort, old.wsPort = new.wsPort,
    old.useTls = new.useTls, old.wifiSsid = new.wifiSsid, old.wifiPassword = new.wifiPassword,
    old.configured = new.configured]

theorem mixed_eq_old_iff {j : ℕ} (hj : j ≤ 9) (old new : EndpointProvisioningSettings) :
    mixed j old new = old ↔ ∀ same ∈ (agreeing old new).take j, same = true := by
  rw [EndpointProvisioningSettings.mk.injEq]
  interval_cases j <;> simp [mixed, agreeing, eq_comm]

theorem mixed_eq_new_iff {j : ℕ} (hj : j ≤ 9) (old new : EndpointProvisioningSettings) :
    mixed j old new = new ↔ ∀ same ∈ (agreeing old new).drop j, same = true := by
  cases new
  interval_cases j <;> simp [mixed, agreeing]

/-- Before or after any place of a list all is true exactly if at most one of its members is false. -/
theorem true_before_or_after_iff (l : List Bool) :
    (∀ j ≤ l.length, (∀ b ∈ l.take j, b = true) ∨ ∀ b ∈ l.drop j, b = true) ↔
      l.count false ≤ 1 := by
  induction l with
  | nil => simp
  | cons b l ih =>
    cases b with
    | true =>
      rw [List.count_cons_of_ne (by decide), ← ih]
      constructor
      · intro h j hj
        rcases h (j + 1) (Nat.succ_le_succ hj) with hbefore | hafter
        · exact .inl fun b hb => hbefore b (List.mem_cons_of_mem _ hb)
        · exact .inr hafter
      · intro h j hj
        cases j with
        | zero => exact .inl fun b hb => absurd hb List.not_mem_nil
        | succ j =>
          rcases h j (Nat.le_of_succ_le_succ hj) with hbefore | hafter
          · exact .inl fun b hb => (List.mem_cons.mp hb).elim id (hbefore b)
          · exact .inr hafter
    | false =>
      rw [List.count_cons_self, Nat.succ_le_succ_iff, Nat.le_zero, List.count_eq_zero]
      constructor
      · intro h
        rcases h 1 (by simp) with hbefore | hafter
        · exact absurd (hbefore false List.mem_cons_self) (by decide)
        · exact fun hfalse => absurd (hafter false hfalse) (by decide)
      · intro hnone j _
        cases j with
        | zero => exact .inl fun b hb => absurd hb List.not_mem_nil
        | succ j =>
          refine .inr fun b hb => ?_
          cases b with
          | true => rfl
          | false => exact absurd (List.mem_of_mem_drop (i := j) hb) hnone

/-- **The next start reads all of the old or all of the new provisioning**, however the call is interrupted,
exactly if the new one is rejected or changes at most one of the nine values. -/
theorem starts_old_or_new_iff (config : Config) (flash : Flash)
    (settings : EndpointProvisioningSettings) :
    StartsOldOrNew config flash settings ↔ (¬ Rejected settings →
      (agreeing (stored config flash flash.settings)
        { settings with configured := true }).count false ≤ 1) := by
  by_cases h : Rejected settings
  · refine iff_of_true (fun fates => .inl ?_) fun hnot => absurd h hnot
    rw [saveEndpointProvisioning, if_pos h]
    rfl
  · have hcases : StartsOldOrNew config flash settings ↔
        ∀ j ≤ 9, (∀ same ∈ (agreeing (stored config flash flash.settings)
            { settings with configured := true }).take j, same = true) ∨
          ∀ same ∈ (agreeing (stored config flash flash.settings)
            { settings with configured := true }).drop j, same = true := by
      constructor
      · intro hstarts j hj
        obtain ⟨fates, -, hstored⟩ := exists_ending config flash h hj
        have hwhole := hstarts fates
        rwa [hstored, mixed_eq_old_iff hj, mixed_eq_new_iff hj] at hwhole
      · intro hall fates
        obtain ⟨j, hj, hstored⟩ := ending_cases config flash h fates
        rw [hstored, mixed_eq_old_iff hj, mixed_eq_new_iff hj]
        exact hall j hj
    rw [hcases, ← true_before_or_after_iff]
    exact ⟨fun hall _ => hall, fun hall => hall h⟩

/-- **Saving is atomic.** -/
theorem saving_is_atomic_iff (config : Config) (flash : Flash)
    (settings : EndpointProvisioningSettings) :
    StartsOldOrNew config flash settings ∧ AgreesOnFailure config flash settings ↔
      (¬ Rejected settings →
        stored config flash flash.settings = { settings with configured := true }) := by
  by_cases h : Rejected settings
  · have hstarts := (starts_old_or_new_iff config flash settings).mpr fun hnot => absurd h hnot
    refine iff_of_true ⟨hstarts, fun fates _ => ?_⟩ fun hnot => absurd h hnot
    rw [saveEndpointProvisioning, if_pos h]
    rfl
  · constructor
    · rintro ⟨-, hagrees⟩ _
      -- committing fails, after all values are set
      obtain ⟨fates, hfalse, hstored⟩ :=
        exists_ending config flash h (le_refl 9)
      have hsame := hagrees fates hfalse
      rwa [hstored, mixed_nine] at hsame
    · intro hsame
      have hending : ∀ fates, stored config flash
          (saveEndpointProvisioning settings flash.settings fates).storage =
            stored config flash flash.settings := by
        intro fates
        obtain ⟨j, -, hstored⟩ := ending_cases config flash h fates
        rw [hstored, ← hsame h, mixed_self]
      exact ⟨fun fates => .inl (hending fates), fun fates _ => (hending fates).symm⟩

/-- Another backend, in another network. -/
def office : Config :=
  { kitchen with
    kEndpointBackendHost := .ofAscii "voice.office"
    kWifiSsid := .ofAscii "office network"
    kWifiPassword := .ofAscii "office password" }

/-- The provisioning for the one. -/
def atHome : EndpointProvisioningSettings :=
  { loadEndpointDefaults kitchen with configured := true }

/-- The provisioning for the other. -/
def moved : EndpointProvisioningSettings :=
  { loadEndpointDefaults office with configured := true }

/-- What is in flash after the device was provisioned at home. -/
def homeFlash : Flash :=
  { settings := (saveEndpointProvisioning atHome Nvs.empty fun _ => .works).storage }

/-- Power is lost after the backend is set. -/
theorem moved_halfway :
    ¬ (StartsOldOrNew kitchen homeFlash moved ∧ AgreesOnFailure kitchen homeFlash moved) := by
  rintro ⟨hstarts, -⟩
  have hwhole := hstarts fun k => if k < 4 then .works else .powerLost
  revert hwhole
  decide +kernel

end HexeVoice.Firmware.ProvisioningInterrupted
