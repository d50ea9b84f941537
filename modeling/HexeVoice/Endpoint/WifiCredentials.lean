import HexeVoice.Library.Machine
import HexeVoice.Library.Python
import Mathlib

/-!
# Saved Wi-Fi passwords

`endpoint/ble_wifi_credentials.py`, with `save_wifi_credentials` and `provision_wifi` of
`endpoint/ble_onboarding.py`.

## The model

The file gives back the record that was written to it; without a file all fields are missing. Fernet is
a parameter, with what makes two encryptions of a text differ (`seed`). Of a provisioning the answers of
Core and the supervisor come with the call, as far as they decide how far it gets, and of its request
what is saved is kept.

## What is proved

**`password_belongs_iff`**: at every moment of a run the store returns, and a request is sent, only the
password that was last supplied for the network, exactly if every save that changes the network without
a password finds none that belongs to another.
-/

namespace HexeVoice.Endpoint.WifiCredentials

open HexeVoice.Library

/-! ### The store -/

/-- The `Fernet` of the stored key. -/
structure Fernet where
  encrypt : String → String → String
  /-- Nothing for what is refused. -/
  decrypt : String → Option String

/-- The record in the file. -/
structure Credentials where
  wifi_ssid : Option String
  encrypted_wifi_password : Option String
  backend_host : Option String
  http_port : Option ℤ
  ws_port : Option ℤ
  use_tls : Option Bool
  updated_at : Option String

/-- There is no file. -/
def Credentials.missing : Credentials := ⟨none, none, none, none, none, none, none⟩

/-- The `payload` of `save`. -/
structure SavePayload where
  wifi_ssid : Option String
  wifi_password : Option String
  backend_host : Option String
  http_port : Option ℤ
  ws_port : Option ℤ
  use_tls : Option Bool

/-- A call of `save`, with the time and the seed of its encryption. -/
structure Save where
  payload : SavePayload
  seed : String
  now : String

/-- `value or None`, of a text that may be missing. -/
def given (value : Option String) : Option String := value.bind nonempty

variable (fernet : Fernet)

/-- `save`: the record that is written. -/
def save (current : Credentials) (call : Save) : Credentials where
  wifi_ssid := (given call.payload.wifi_ssid).or current.wifi_ssid
  encrypted_wifi_password :=
    match given call.payload.wifi_password with
    | some password => some (fernet.encrypt call.seed password)
    | none => current.encrypted_wifi_password
  backend_host := (given call.payload.backend_host).or current.backend_host
  http_port := call.payload.http_port.or current.http_port
  ws_port := call.payload.ws_port.or current.ws_port
  use_tls := call.payload.use_tls.or current.use_tls
  updated_at := some call.now

/-- `str(payload.get("wifi_ssid") or "")`: the stored network. -/
def Credentials.network (current : Credentials) : String := current.wifi_ssid.getD ""

/-- The password in the record. -/
def storedPassword (current : Credentials) : Option String :=
  (given current.encrypted_wifi_password).bind fernet.decrypt

def savedPasswordForSsid (current : Credentials) (wifi_ssid : String) : Option String :=
  if current.network ≠ wifi_ssid then none else storedPassword fernet current

/-! ### The requests -/

/-- An `EndpointBleProvisionWifiRequest`. -/
structure ProvisionRequest where
  wifi_ssid : String
  wifi_password : Option String
  backend_host : String
  http_port : ℤ
  ws_port : ℤ
  use_tls : Bool
  save_wifi_credentials : Bool

/-- The network and the password of the `credential_payload` that a request leads to. -/
def credentialPayload (current : Credentials) (request : ProvisionRequest) : String × Option String :=
  (request.wifi_ssid,
    (given request.wifi_password).or (savedPasswordForSsid fernet current request.wifi_ssid))

/-- What `provision_wifi` saves. -/
def ProvisionRequest.savePayload (request : ProvisionRequest) : SavePayload where
  wifi_ssid := some request.wifi_ssid
  wifi_password := request.wifi_password
  backend_host := some request.backend_host
  http_port := some request.http_port
  ws_port := some request.ws_port
  use_tls := some request.use_tls

/-- The calls of the service. -/
inductive Call where
  /-- `save_wifi_credentials`. -/
  | saveWifiCredentials (call : Save)
  /-- `provision_wifi`, which may end before it comes to the store. -/
  | provisionWifi (request : ProvisionRequest) (reaches_store : Bool) (seed now : String)

/-- The save that a call makes, if any. -/
def Call.save? : Call → Option Save
  | .saveWifiCredentials call => some call
  | .provisionWifi request reaches_store seed now =>
    if reaches_store ∧ request.save_wifi_credentials then some ⟨request.savePayload, seed, now⟩
    else none

/-! ### Whose password it is -/

/-- The store, and the password last supplied for each network. -/
structure History where
  current : Credentials
  supplied : String → Option String

/-- A store without a file. -/
def History.initial : History := ⟨.missing, fun _ => none⟩

/-- A password is supplied for the network that is stored with it. -/
def History.save (history : History) (call : Save) : History where
  current := WifiCredentials.save fernet history.current call
  supplied :=
    match given call.payload.wifi_password with
    | some password =>
      Function.update history.supplied (WifiCredentials.save fernet history.current call).network
        (some password)
    | none => history.supplied

def step (history : History) (call : Call) : History :=
  match call.save? with
  | some call => history.save fernet call
  | none => history

/-- The store returns, and every request sends, only what was last supplied for the network. -/
structure Belongs (history : History) : Prop where
  returned : ∀ wifi_ssid password,
    savedPasswordForSsid fernet history.current wifi_ssid = some password →
      history.supplied wifi_ssid = some password
  sent : ∀ request password,
    (credentialPayload fernet history.current request).2 = some password →
      request.wifi_password = some password ∨ history.supplied request.wifi_ssid = some password

/-- A save without a password leaves the network, or finds no password of another. -/
def KeepsNetwork (history : History) (call : Call) : Prop :=
  ∀ saved, call.save? = some saved → given saved.payload.wifi_password = none →
    (save fernet history.current saved).network ≠ history.current.network →
    ∀ password, storedPassword fernet history.current = some password →
      history.supplied (save fernet history.current saved).network = some password

/-- The encryption of a text is decrypted to it, and is not empty. -/
structure RoundTrips : Prop where
  decrypt_encrypt : ∀ seed text, fernet.decrypt (fernet.encrypt seed text) = some text
  encrypt_ne : ∀ seed text, fernet.encrypt seed text ≠ ""

/-! ### One call -/

section

variable {fernet}

theorem given_some {text : String} (h : text ≠ "") : given (some text) = some text := by
  simp [given, nonempty, h]

theorem eq_some_of_given {value : Option String} {text : String} (h : given value = some text) :
    value = some text := by
  cases value with
  | none => cases h
  | some s =>
    simp only [given, nonempty, Option.bind_some] at h
    split at h
    · cases h
    · exact h

/-- Only the stored network has a password, so it is enough to ask for its own. -/
theorem belongs_iff (history : History) :
    Belongs fernet history ↔ ∀ password, storedPassword fernet history.current = some password →
      history.supplied history.current.network = some password := by
  constructor
  · intro h password hstored
    exact h.returned _ _ (by rw [savedPasswordForSsid, if_neg (not_not.mpr rfl), hstored])
  · intro h
    have hreturned : ∀ wifi_ssid password,
        savedPasswordForSsid fernet history.current wifi_ssid = some password →
          history.supplied wifi_ssid = some password := by
      intro wifi_ssid password hsaved
      rw [savedPasswordForSsid] at hsaved
      split at hsaved
      · cases hsaved
      next hnetwork => exact not_not.mp hnetwork ▸ h password hsaved
    refine ⟨hreturned, fun request password hsent => ?_⟩
    obtain hown | ⟨-, hsaved⟩ := Option.or_eq_some_iff.mp hsent
    · exact .inl (eq_some_of_given hown)
    · exact .inr (hreturned _ _ hsaved)

/-- A save with a password stores that password. -/
theorem storedPassword_save (hfernet : RoundTrips fernet) (current : Credentials) {call : Save}
    {password : String} (h : given call.payload.wifi_password = some password) :
    storedPassword fernet (save fernet current call) = some password := by
  have hfield : (save fernet current call).encrypted_wifi_password =
      some (fernet.encrypt call.seed password) := by simp only [save, h]
  rw [storedPassword, hfield, given_some (hfernet.encrypt_ne _ _), Option.bind_some,
    hfernet.decrypt_encrypt]

/-- A save without one leaves the password as it is. -/
theorem storedPassword_save_of_none (current : Credentials) {call : Save}
    (h : given call.payload.wifi_password = none) :
    storedPassword fernet (save fernet current call) = storedPassword fernet current := by
  simp only [storedPassword, save, h]

theorem belongs_save_iff (hfernet : RoundTrips fernet) {history : History} (call : Save)
    (h : Belongs fernet history) :
    Belongs fernet (history.save fernet call) ↔ (given call.payload.wifi_password = none →
      (save fernet history.current call).network ≠ history.current.network →
      ∀ password, storedPassword fernet history.current = some password →
        history.supplied (save fernet history.current call).network = some password) := by
  rw [belongs_iff]
  cases hpassword : given call.payload.wifi_password with
  | some password =>
    simp only [History.save, hpassword, Function.update_self]
    rw [storedPassword_save hfernet history.current hpassword]
    simp
  | none =>
    simp only [History.save, hpassword, true_implies]
    rw [storedPassword_save_of_none history.current hpassword]
    constructor
    · exact fun hall _ => hall
    · intro hchanged password hstored
      by_cases hsame : (save fernet history.current call).network = history.current.network
      · rw [hsame]
        exact (belongs_iff history).mp h password hstored
      · exact hchanged hsame password hstored

theorem belongs_step_iff (hfernet : RoundTrips fernet) {history : History} (call : Call)
    (h : Belongs fernet history) :
    Belongs fernet (step fernet history call) ↔ KeepsNetwork fernet history call := by
  cases hsave : call.save? with
  | none => simp [step, KeepsNetwork, hsave, h]
  | some saved =>
    simp only [step, KeepsNetwork, hsave, Option.some.injEq, forall_eq']
    exact belongs_save_iff hfernet saved h

theorem belongs_initial : Belongs fernet .initial :=
  (belongs_iff _).mpr fun password h => by simp [storedPassword, given, History.initial,
    Credentials.missing] at h

end

/-! ### Any calls -/

/-- **A password stays with its network exactly if no save takes another's along.** -/
theorem password_belongs_iff (fernet : Fernet) (hfernet : RoundTrips fernet) (calls : List Call) :
    (∀ taken, taken <+: calls → Belongs fernet (run (step fernet) .initial taken)) ↔
      AllSteps (step fernet) (KeepsNetwork fernet) .initial calls :=
  throughout_iff (fun _ call h => belongs_step_iff hfernet call h) belongs_initial calls

/-! ### Two saves -/

/-- Tokens that begin as those of Fernet do. -/
private def plainFernet : Fernet where
  encrypt := fun _ text => "gAAAAA" ++ text
  decrypt := fun token => some (String.ofList (token.toList.drop 6))

private theorem plainFernet_roundTrips : RoundTrips plainFernet where
  decrypt_encrypt := fun _ text => by simp [plainFernet]
  encrypt_ne := fun _ text h => by
    have := congrArg (fun token => token.toList.length) h
    simp [plainFernet] at this

/-- A call of the credentials form. -/
private def formCall (wifi_ssid wifi_password : Option String) : Call :=
  .saveWifiCredentials ⟨⟨wifi_ssid, wifi_password, none, none, none, none⟩, "", "2026-01-01"⟩

theorem own_password_kept :
    Belongs plainFernet (run (step plainFernet) .initial
      [formCall (some "Home") (some "home-secret"), formCall (some "Home") none]) := by
  refine (password_belongs_iff plainFernet plainFernet_roundTrips
    [formCall (some "Home") (some "home-secret"), formCall (some "Home") none]).mpr
      ⟨?_, ?_, trivial⟩ _ List.prefix_rfl
  · intro saved hsave hnone
    obtain rfl := Option.some.inj hsave
    cases hnone
  · intro saved hsave _ hchanged
    obtain rfl := Option.some.inj hsave
    exact absurd rfl hchanged

/-- The form is sent again with another network and no password. -/
theorem password_moves_along :
    ¬ ∀ fernet, RoundTrips fernet → ∀ calls taken : List Call, taken <+: calls →
      Belongs fernet (run (step fernet) .initial taken) := by
  intro hclaim
  have h := hclaim plainFernet plainFernet_roundTrips
    [formCall (some "Home") (some "home-secret"), formCall (some "Guests") none] _ List.prefix_rfl
  have hsupplied := h.returned "Guests" "home-secret" (by decide +kernel)
  exact absurd hsupplied (by decide +kernel)

end HexeVoice.Endpoint.WifiCredentials
