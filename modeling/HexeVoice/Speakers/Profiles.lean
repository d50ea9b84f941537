import HexeVoice.Library.Machine
import HexeVoice.Library.Text

/-!
# Speaker profiles

The profile store and the operations on it of `speaker_id/service.py`.

## The model

What the recordings of a request are embedded to is part of the request. Recordings, consents and the
stored age policy are of any type; what is counted, averaged or tracked of the recordings of a profile
is left out. What `uuid4` draws is an input.

## What is proved

**`enrollment_spares_others`**: after any run, profiles have distinct ids and distinct public ids, and
an enrollment without an explicit public id leaves the profiles of all other display names as they are
exactly if none of them has the public id that the display name gives.
-/

namespace HexeVoice.Speakers

open HexeVoice.Library

/-! ### Public ids -/

/-- `[a-z0-9_]`. -/
def slugChar (c : Char) : Bool := c.isLower || c.isDigit || c = '_'

/-- `re.sub(r"[^a-z0-9_]+", "_", text)`, within a gap or not. -/
def underscored : Bool → List Char → List Char
  | _, [] => []
  | gap, c :: cs =>
    if slugChar c then c :: underscored false cs
    else if gap then underscored true cs
    else '_' :: underscored true cs

/-- `text.strip("_")`. -/
def stripUnderscores (cs : List Char) : List Char :=
  ((cs.dropWhile (· = '_')).reverse.dropWhile (· = '_')).reverse

/-- `_safe_public_id`, where `uuid4().hex[:8]` would be `draw`. -/
def safePublicId (lower : String → String) (draw value : String) : String :=
  let normalized :=
    String.ofList (stripUnderscores (underscored false (lower (strip value)).toList))
  let normalized := if normalized = "" then draw else normalized
  if startsWith normalized "speaker_" then normalized else "speaker_" ++ normalized

def uniqueProfileId (draw speakerPublicId : String) (used : List String) : String :=
  if speakerPublicId ∉ used then speakerPublicId
  else
    (((List.range' 2 998).map fun index => s!"{speakerPublicId}_{index}").find? (· ∉ used)).getD
      (speakerPublicId ++ "_" ++ draw)

/-! ### Profiles -/

section profiles

variable {Recording Consent Ages Policy : Type}
variable {speakerPublicId : String}

structure Profile (Recording Consent Policy : Type) where
  profileId : String
  speakerPublicId : String
  displayName : String
  labels : List String
  consent : Consent
  profileVersion : ℕ
  phraseSetVersion : String
  agePolicy : Policy
  createdAt : String
  updatedAt : String
  providerId : String
  /-- The samples with their embeddings. -/
  recordings : List Recording
  deriving DecidableEq

/-- `SpeakerEnrollRequest`, with what its samples are embedded to. -/
structure SpeakerEnrollRequest (Recording Consent Ages : Type) where
  phraseSetVersion : Option String := none
  displayName : String
  speakerPublicId : Option String := none
  labels : List String := []
  ages : Ages
  consent : Consent
  recordings : Except String (List Recording)

structure SpeakerProfileUpdateRequest (Ages : Type) where
  displayName : Option String := none
  speakerPublicId : Option String := none
  labels : Option (List String) := none
  ages : Ages

/-- What is not of this module. -/
structure Service (Recording Consent Ages Policy : Type) where
  /-- `str.lower`. -/
  lower : String → String
  /-- The `blocking_reasons` of `_enrollment_readiness`. -/
  blockingReasons : List Recording → List String
  /-- The `provider_id` of an embedding. -/
  provider : Recording → String
  /-- `_profile_age_policy` of an enrollment. -/
  agePolicy : Ages → String → Except String Policy
  /-- `_profile_age_policy` of a stored policy and what is to be changed of it. -/
  updatedPolicy : Policy → Ages → String → Except String Policy
  activePhraseSetVersion : String := "speaker-id-phrase-set-v1"
  /-- The provider of the adapter. -/
  adapterProvider : String

/-- What the request and the reading of it give: when, and what is drawn. -/
structure Draws where
  now : String
  publicId : String
  profileId : String
  deriving DecidableEq

variable (service : Service Recording Consent Ages Policy)

/-- A text, unless it is empty. -/
def truthy (text : Option String) : Option String := text.filter (· ≠ "")

/-- The labels, stripped, without those that are empty. -/
def cleanLabels (labels : List String) : List String := (labels.map strip).filter (· ≠ "")

/-- `SpeakerProfileStore.upsert`. -/
def upsert (profile : Profile Recording Consent Policy) :
    List (Profile Recording Consent Policy) → List (Profile Recording Consent Policy)
  | [] => [profile]
  | existing :: profiles =>
    if existing.profileId = profile.profileId then profile :: profiles
    else existing :: upsert profile profiles

def replaceProfile (updated : Profile Recording Consent Policy)
    (profiles : List (Profile Recording Consent Policy)) :
    List (Profile Recording Consent Policy) :=
  profiles.map fun profile => if profile.profileId = updated.profileId then updated else profile

/-- The public id of an enrollment. -/
def enrolledPublicId (draws : Draws) (request : SpeakerEnrollRequest Recording Consent Ages) :
    String :=
  safePublicId service.lower draws.publicId
    ((truthy request.speakerPublicId).getD request.displayName)

/-- The stored profile with a public id, by `_find_profile`. -/
def findPublic (speakerPublicId : String) (profiles : List (Profile Recording Consent Policy)) :
    Option (Profile Recording Consent Policy) :=
  profiles.find? fun profile => profile.speakerPublicId = speakerPublicId

/-- The stored profile with an id, by `_find_profile`. -/
def findProfile (profileId : String) (profiles : List (Profile Recording Consent Policy)) :
    Option (Profile Recording Consent Policy) :=
  profiles.find? fun profile => profileId ≠ "" ∧ profile.profileId = profileId

/-- The id of the profile of an enrollment. -/
def enrolledProfileId (draws : Draws) (request : SpeakerEnrollRequest Recording Consent Ages)
    (profiles : List (Profile Recording Consent Policy)) : String :=
  let speakerPublicId := enrolledPublicId service draws request
  match findPublic speakerPublicId profiles with
  | some existing => existing.profileId
  | none => uniqueProfileId draws.profileId speakerPublicId (profiles.map (·.profileId))

def profileFromEnrollment (draws : Draws) (request : SpeakerEnrollRequest Recording Consent Ages)
    (recordings : List Recording) (agePolicy : Policy)
    (profiles : List (Profile Recording Consent Policy)) : Profile Recording Consent Policy :=
  let existing := findPublic (enrolledPublicId service draws request) profiles
  { profileId := enrolledProfileId service draws request profiles
    speakerPublicId := enrolledPublicId service draws request
    displayName := request.displayName
    labels := cleanLabels request.labels
    consent := request.consent
    profileVersion := ((existing.map (·.profileVersion)).getD 0) + 1
    phraseSetVersion := (truthy request.phraseSetVersion).getD service.activePhraseSetVersion
    agePolicy
    createdAt := (existing.map (·.createdAt)).getD draws.now
    updatedAt := draws.now
    providerId := ((recordings.head?).map service.provider).getD ""
    recordings }

/-- What `enroll` is given by its samples and its age policy, or why it is refused. -/
def enrollable (draws : Draws) (request : SpeakerEnrollRequest Recording Consent Ages) :
    Except String (List Recording × Policy) := do
  let recordings ← request.recordings
  let reasons := service.blockingReasons recordings
  if reasons ≠ [] then throw ("enrollment_not_ready:" ++ ",".intercalate reasons)
  let agePolicy ← service.agePolicy request.ages draws.now
  return (recordings, agePolicy)

/-- The public id after an update: no other profile may have it. -/
def updatedPublicId (draws : Draws) (profile : Profile Recording Consent Policy)
    (request : SpeakerProfileUpdateRequest Ages)
    (profiles : List (Profile Recording Consent Policy)) : Except String String :=
  match request.speakerPublicId with
  | none => .ok profile.speakerPublicId
  | some value =>
    let speakerPublicId := safePublicId service.lower draws.publicId value
    match findPublic speakerPublicId profiles with
    | some existing =>
      if existing.profileId ≠ profile.profileId then .error "speaker_public_id_already_exists"
      else .ok speakerPublicId
    | none => .ok speakerPublicId

def profileWithMetadataUpdates (draws : Draws) (profile : Profile Recording Consent Policy)
    (request : SpeakerProfileUpdateRequest Ages)
    (profiles : List (Profile Recording Consent Policy)) :
    Except String (Profile Recording Consent Policy) := do
  let displayName := request.displayName.getD profile.displayName
  let speakerPublicId ← updatedPublicId service draws profile request profiles
  -- the validation of the `SpeakerProfileRequest` that the policy is computed from
  if displayName = "" ∨ 128 < displayName.length ∨ 128 < speakerPublicId.length then
    throw "validation_error"
  let agePolicy ← service.updatedPolicy profile.agePolicy request.ages draws.now
  return { profile with
    speakerPublicId
    displayName
    labels := cleanLabels (request.labels.getD profile.labels)
    agePolicy
    updatedAt := draws.now
    profileVersion := profile.profileVersion + 1 }

/-- `_profile_with_appended_samples`, with the check of the adapter after it. -/
def profileWithAppendedSamples (draws : Draws) (profile : Profile Recording Consent Policy)
    (phraseSetVersion : Option String) (recordings : List Recording) :
    Except String (Profile Recording Consent Policy) := do
  let all := profile.recordings ++ recordings
  if all = [] then throw "no_profile_samples"
  if !all.all fun recording => service.provider recording = profile.providerId then
    throw "profile_provider_mismatch"
  let reasons := service.blockingReasons all
  if reasons ≠ [] then throw ("enrollment_not_ready:" ++ ",".intercalate reasons)
  if profile.providerId ≠ service.adapterProvider then throw "profile_provider_mismatch"
  return { profile with
    updatedAt := draws.now
    profileVersion := profile.profileVersion + 1
    phraseSetVersion := (truthy phraseSetVersion).getD profile.phraseSetVersion
    recordings := all }

/-! ### Operations -/

/-- The requests that change profiles. -/
inductive Operation (Recording Consent Ages : Type) where
  | enroll (draws : Draws) (request : SpeakerEnrollRequest Recording Consent Ages)
  | updateProfile (draws : Draws) (profileId : String) (request : SpeakerProfileUpdateRequest Ages)
  | appendProfileSamples (draws : Draws) (profileId : String) (phraseSetVersion : Option String)
      (recordings : Except String (List Recording))
  | deleteProfile (profileId : String)

/-- One request; one that fails leaves the profiles as they are. -/
def step (profiles : List (Profile Recording Consent Policy)) :
    Operation Recording Consent Ages → List (Profile Recording Consent Policy)
  | .enroll draws request =>
    match enrollable service draws request with
    | .ok (recordings, agePolicy) =>
      upsert (profileFromEnrollment service draws request recordings agePolicy profiles) profiles
    | .error _ => profiles
  | .updateProfile draws profileId request =>
    match findProfile profileId profiles with
    | none => profiles
    | some profile =>
      match profileWithMetadataUpdates service draws profile request profiles with
      | .ok updated => replaceProfile updated profiles
      | .error _ => profiles
  | .appendProfileSamples draws profileId phraseSetVersion recordings =>
    match findProfile profileId profiles with
    | none => profiles
    | some profile =>
      match recordings >>= profileWithAppendedSamples service draws profile phraseSetVersion with
      | .ok updated => replaceProfile updated profiles
      | .error _ => profiles
  | .deleteProfile profileId => profiles.filter fun profile => profile.profileId ≠ profileId

/-! ### Distinct ids -/

/-- No two profiles share an id or a public id. -/
structure Distinct (profiles : List (Profile Recording Consent Policy)) : Prop where
  ids : (profiles.map (·.profileId)).Nodup
  publicIds : (profiles.map (·.speakerPublicId)).Nodup

section store

variable {profiles : List (Profile Recording Consent Policy)}
  {profile : Profile Recording Consent Policy}

theorem mem_upsert (hids : (profiles.map (·.profileId)).Nodup)
    (p : Profile Recording Consent Policy) :
    p ∈ upsert profile profiles ↔ p = profile ∨ p ∈ profiles ∧ p.profileId ≠ profile.profileId := by
  induction profiles with
  | nil => simp [upsert]
  | cons existing profiles ih =>
    rw [List.map_cons, List.nodup_cons] at hids
    unfold upsert
    by_cases hsame : existing.profileId = profile.profileId
    · rw [if_pos hsame, List.mem_cons, List.mem_cons]
      constructor
      · rintro (h | h)
        · exact .inl h
        · refine .inr ⟨.inr h, fun heq => hids.1 ?_⟩
          rw [hsame, ← heq]
          exact List.mem_map_of_mem h
      · rintro (h | ⟨rfl | h, hne⟩)
        · exact .inl h
        · exact absurd hsame hne
        · exact .inr h
    · rw [if_neg hsame, List.mem_cons, List.mem_cons, ih hids.2]
      constructor
      · rintro (rfl | h | ⟨h, hne⟩)
        · exact .inr ⟨.inl rfl, hsame⟩
        · exact .inl h
        · exact .inr ⟨.inr h, hne⟩
      · rintro (h | ⟨h | h, hne⟩)
        · exact .inr (.inl h)
        · exact .inl h
        · exact .inr (.inr ⟨h, hne⟩)

/-- A value that no other profile has stays distinct. -/
theorem nodup_upsert {f : Profile Recording Consent Policy → String}
    (hids : (profiles.map (·.profileId)).Nodup) (hf : (profiles.map f).Nodup)
    (hnew : ∀ p ∈ profiles, p.profileId ≠ profile.profileId → f p ≠ f profile) :
    ((upsert profile profiles).map f).Nodup := by
  induction profiles with
  | nil => simp [upsert]
  | cons existing profiles ih =>
    have hids' := hids
    rw [List.map_cons, List.nodup_cons] at hids hf
    rw [List.forall_mem_cons] at hnew
    unfold upsert
    by_cases hsame : existing.profileId = profile.profileId
    · rw [if_pos hsame, List.map_cons, List.nodup_cons]
      refine ⟨fun hmem => ?_, hf.2⟩
      obtain ⟨p, hp, heq⟩ := List.mem_map.mp hmem
      refine hnew.2 p hp (fun hid => hids.1 ?_) heq
      rw [hsame, ← hid]
      exact List.mem_map_of_mem hp
    · rw [if_neg hsame, List.map_cons, List.nodup_cons]
      refine ⟨fun hmem => ?_, ih hids.2 hf.2 hnew.2⟩
      obtain ⟨p, hp, heq⟩ := List.mem_map.mp hmem
      obtain rfl | ⟨hp, -⟩ := (mem_upsert hids.2 p).mp hp
      · exact hnew.1 hsame heq.symm
      · exact hf.1 (heq ▸ List.mem_map_of_mem hp)

theorem Distinct.upsert (h : Distinct profiles)
    (hnew : ∀ p ∈ profiles, p.profileId ≠ profile.profileId →
      p.speakerPublicId ≠ profile.speakerPublicId) : Distinct (upsert profile profiles) :=
  ⟨nodup_upsert h.ids h.ids fun _ _ hne => hne, nodup_upsert h.ids h.publicIds hnew⟩

/-- To replace a profile is to put another one in its place. -/
theorem replaceProfile_eq (hids : (profiles.map (·.profileId)).Nodup)
    (hmem : profile.profileId ∈ profiles.map (·.profileId)) :
    replaceProfile profile profiles = upsert profile profiles := by
  induction profiles with
  | nil => cases hmem
  | cons existing profiles ih =>
    rw [List.map_cons, List.nodup_cons] at hids
    unfold upsert
    by_cases hsame : existing.profileId = profile.profileId
    · rw [if_pos hsame]
      simp only [replaceProfile, List.map_cons, if_pos hsame, List.cons.injEq, true_and]
      refine (List.map_congr_left fun p hp => if_neg fun heq => hids.1 ?_).trans (List.map_id _)
      rw [hsame, ← heq]
      exact List.mem_map_of_mem hp
    · rw [if_neg hsame]
      have hmem' : profile.profileId ∈ profiles.map (·.profileId) := by
        rw [List.map_cons, List.mem_cons] at hmem
        exact hmem.resolve_left (Ne.symm hsame)
      rw [← ih hids.2 hmem']
      simp only [replaceProfile, List.map_cons, if_neg hsame]

theorem eq_of_publicId (h : Distinct profiles) {p q : Profile Recording Consent Policy}
    (hp : p ∈ profiles) (hq : q ∈ profiles) (heq : p.speakerPublicId = q.speakerPublicId) : p = q :=
  List.inj_on_of_nodup_map h.publicIds hp hq heq

theorem eq_of_profileId (h : Distinct profiles) {p q : Profile Recording Consent Policy}
    (hp : p ∈ profiles) (hq : q ∈ profiles) (heq : p.profileId = q.profileId) : p = q :=
  List.inj_on_of_nodup_map h.ids hp hq heq

theorem findPublic_some
    (h : findPublic speakerPublicId profiles = some profile) :
    profile ∈ profiles ∧ profile.speakerPublicId = speakerPublicId := by
  unfold findPublic at h
  exact ⟨List.mem_of_find?_eq_some h, by simpa using List.find?_some h⟩

theorem findPublic_none (h : findPublic speakerPublicId profiles = none)
    {p : Profile Recording Consent Policy} (hp : p ∈ profiles) :
    p.speakerPublicId ≠ speakerPublicId := by
  simpa using List.find?_eq_none.mp h p hp

theorem findProfile_some {profileId : String} (h : findProfile profileId profiles = some profile) :
    profile ∈ profiles ∧ profile.profileId = profileId := by
  unfold findProfile at h
  have hfound := List.find?_some h
  simp only [decide_eq_true_eq] at hfound
  exact ⟨List.mem_of_find?_eq_some h, hfound.2⟩

end store

/-! ### What each operation makes of a profile -/

section operations

variable {service} {draws : Draws} {profiles : List (Profile Recording Consent Policy)}
  {profile updated : Profile Recording Consent Policy}

theorem profileFromEnrollment_of {request : SpeakerEnrollRequest Recording Consent Ages}
    {recordings : List Recording} {agePolicy : Policy} :
    (profileFromEnrollment service draws request recordings agePolicy profiles).profileId =
        enrolledProfileId service draws request profiles ∧
      (profileFromEnrollment service draws request recordings agePolicy profiles).speakerPublicId =
        enrolledPublicId service draws request ∧
      (profileFromEnrollment service draws request recordings agePolicy profiles).profileVersion =
        (((findPublic (enrolledPublicId service draws request) profiles).map
          (·.profileVersion)).getD 0) + 1 := by
  simp only [profileFromEnrollment, and_self]

theorem updatedPublicId_spec {request : SpeakerProfileUpdateRequest Ages}
    (h : updatedPublicId service draws profile request profiles = .ok speakerPublicId) :
    speakerPublicId = profile.speakerPublicId ∨
      ∀ existing ∈ findPublic speakerPublicId profiles,
        existing.profileId = profile.profileId := by
  unfold updatedPublicId at h
  cases hasked : request.speakerPublicId with
  | none =>
    simp only [hasked, Except.ok.injEq] at h
    exact .inl h.symm
  | some value =>
    simp only [hasked] at h
    generalize safePublicId service.lower draws.publicId value = asked at h
    cases hfound : findPublic asked profiles with
    | none =>
      simp only [hfound, Except.ok.injEq] at h
      subst h
      exact .inr (by simp [hfound])
    | some existing =>
      simp only [hfound] at h
      split at h
      · cases h
      · next hsame =>
        obtain rfl := Except.ok.inj h
        refine .inr fun other hother => ?_
        rw [hfound] at hother
        obtain rfl := Option.some.inj hother
        exact not_not.mp hsame

theorem profileWithMetadataUpdates_spec {request : SpeakerProfileUpdateRequest Ages}
    (h : profileWithMetadataUpdates service draws profile request profiles = .ok updated) :
    updated.profileId = profile.profileId ∧
      (updated.speakerPublicId = profile.speakerPublicId ∨
        ∀ existing ∈ findPublic updated.speakerPublicId profiles,
          existing.profileId = profile.profileId) := by
  unfold profileWithMetadataUpdates at h
  simp only [bind, Except.bind, pure, Except.pure, throw, throwThe, MonadExceptOf.throw] at h
  cases hpublic : updatedPublicId service draws profile request profiles with
  | error e => simp [hpublic] at h
  | ok speakerPublicId =>
    simp only [hpublic] at h
    split at h
    · cases h
    · cases hpolicy : service.updatedPolicy profile.agePolicy request.ages draws.now with
      | error e => simp [hpolicy] at h
      | ok policy =>
        simp only [hpolicy, Except.ok.injEq] at h
        subst h
        exact ⟨rfl, updatedPublicId_spec hpublic⟩

theorem profileWithAppendedSamples_spec {phraseSetVersion : Option String}
    {recordings : List Recording}
    (h : profileWithAppendedSamples service draws profile phraseSetVersion recordings =
      .ok updated) :
    updated.profileId = profile.profileId ∧ updated.speakerPublicId = profile.speakerPublicId := by
  unfold profileWithAppendedSamples at h
  simp only [bind, Except.bind, pure, Except.pure, throw, throwThe, MonadExceptOf.throw] at h
  repeat' split at h
  all_goals first
    | cases h; done
    | (obtain rfl := Except.ok.inj h; exact ⟨rfl, rfl⟩)

/-! ### Runs -/

/-- The profile that an operation other than an enrollment is about. -/
def Operation.target : Operation Recording Consent Ages → Option String
  | .enroll _ _ => none
  | .updateProfile _ profileId _ | .appendProfileSamples _ profileId _ _
  | .deleteProfile profileId => some profileId

/-- **What an operation does**: nothing, or it enrolls a profile, replaces the one that it is about,
or deletes it. -/
theorem step_cases (operation : Operation Recording Consent Ages) :
    step service profiles operation = profiles ∨
      (∃ draws request recordings agePolicy, operation = .enroll draws request ∧
        step service profiles operation =
          upsert (profileFromEnrollment service draws request recordings agePolicy profiles)
            profiles) ∨
      (∃ profile updated, operation.target = some profile.profileId ∧ profile ∈ profiles ∧
        updated.profileId = profile.profileId ∧
        (updated.speakerPublicId = profile.speakerPublicId ∨
          ∀ existing ∈ findPublic updated.speakerPublicId profiles,
            existing.profileId = profile.profileId) ∧
        step service profiles operation = replaceProfile updated profiles) ∨
      ∃ profileId, operation.target = some profileId ∧
        step service profiles operation =
          profiles.filter fun profile => profile.profileId ≠ profileId := by
  cases operation with
  | enroll draws request =>
    cases hrequest : enrollable service draws request with
    | error e => exact .inl (by simp only [step, hrequest])
    | ok result =>
      refine .inr (.inl ⟨draws, request, result.1, result.2, rfl, ?_⟩)
      simp only [step, hrequest]
  | updateProfile draws profileId request =>
    cases hfound : findProfile profileId profiles with
    | none => exact .inl (by simp only [step, hfound])
    | some profile =>
      cases hupdated : profileWithMetadataUpdates service draws profile request profiles with
      | error e => exact .inl (by simp only [step, hfound, hupdated])
      | ok updated =>
        obtain ⟨hmem, rfl⟩ := findProfile_some hfound
        obtain ⟨hid, hpublic⟩ := profileWithMetadataUpdates_spec hupdated
        refine .inr (.inr (.inl ⟨profile, updated, rfl, hmem, hid, hpublic, ?_⟩))
        simp only [step, hfound, hupdated]
  | appendProfileSamples draws profileId phraseSetVersion recordings =>
    cases hfound : findProfile profileId profiles with
    | none => exact .inl (by simp only [step, hfound])
    | some profile =>
      cases hupdated : recordings >>=
          profileWithAppendedSamples service draws profile phraseSetVersion with
      | error e => exact .inl (by simp only [step, hfound, hupdated])
      | ok updated =>
        obtain ⟨hmem, rfl⟩ := findProfile_some hfound
        cases recordings with
        | error e => cases hupdated
        | ok recordings =>
          obtain ⟨hid, hpublic⟩ := profileWithAppendedSamples_spec hupdated
          refine .inr (.inr (.inl ⟨profile, updated, rfl, hmem, hid, .inl hpublic, ?_⟩))
          simp only [step, hfound, hupdated]
  | deleteProfile profileId =>
    exact .inr (.inr (.inr ⟨profileId, rfl, by simp only [step]⟩))

/-- An operation leaves the profiles that it is not about. -/
theorem step_other {operation : Operation Recording Consent Ages} {profileId : String}
    (htarget : operation.target = some profileId) {p : Profile Recording Consent Policy}
    (hp : p ∈ profiles) (hne : p.profileId ≠ profileId) : p ∈ step service profiles operation := by
  obtain heq | ⟨draws, request, recordings, agePolicy, rfl, -⟩ |
      ⟨profile, updated, htarget', -, hid, -, heq⟩ | ⟨id, htarget', heq⟩ :=
    @step_cases _ _ _ _ service profiles operation
  · rw [heq]
    exact hp
  · cases htarget
  · obtain rfl := Option.some.inj (htarget.symm.trans htarget')
    rw [heq]
    exact List.mem_map.mpr ⟨p, hp, if_neg fun h => hne (h.trans hid)⟩
  · obtain rfl := Option.some.inj (htarget.symm.trans htarget')
    rw [heq]
    exact List.mem_filter.mpr ⟨hp, by simpa using hne⟩

/-- Every operation keeps ids distinct. -/
theorem Distinct.step (h : Distinct profiles) (operation : Operation Recording Consent Ages) :
    Distinct (step service profiles operation) := by
  obtain heq | ⟨draws, request, recordings, agePolicy, -, heq⟩ |
      ⟨profile, updated, -, hmem, hid, hpublic, heq⟩ | ⟨id, -, heq⟩ :=
    @step_cases _ _ _ _ service profiles operation
  · rw [heq]
    exact h
  · rw [heq]
    obtain ⟨hid, hpublic, -⟩ := @profileFromEnrollment_of _ _ _ _ service draws profiles request
      recordings agePolicy
    generalize profileFromEnrollment service draws request recordings agePolicy profiles = new at *
    refine h.upsert fun p hp hne heq => ?_
    rw [hpublic] at heq
    unfold enrolledProfileId at hid
    generalize enrolledPublicId service draws request = publicId at *
    cases hfound : findPublic publicId profiles with
    | none => exact findPublic_none hfound hp heq
    | some existing =>
      obtain ⟨hexisting, hsame⟩ := findPublic_some hfound
      simp only [hfound] at hid
      apply hne
      rw [hid, eq_of_publicId h hp hexisting (heq.trans hsame.symm)]
  · rw [heq, replaceProfile_eq h.ids (hid ▸ List.mem_map_of_mem hmem)]
    refine h.upsert fun p hp hne heq => ?_
    rcases hpublic with hpublic | hpublic
    · rw [eq_of_publicId h hp hmem (heq.trans hpublic)] at hne
      exact hne hid.symm
    · cases hfound : findPublic updated.speakerPublicId profiles with
      | none => exact findPublic_none hfound hp heq
      | some existing =>
        obtain ⟨hexisting, hsame⟩ := findPublic_some hfound
        rw [eq_of_publicId h hp hexisting (heq.trans hsame.symm), hpublic existing hfound] at hne
        exact hne hid.symm
  · rw [heq]
    exact ⟨h.ids.sublist (List.filter_sublist.map _), h.publicIds.sublist (List.filter_sublist.map _)⟩

/-! ### Other people's profiles -/

/-- The same display name, without case and the blanks around it. -/
def SameName (lower : String → String) (a b : String) : Prop := lower (strip a) = lower (strip b)

instance (lower : String → String) (a b : String) : Decidable (SameName lower a b) :=
  inferInstanceAs (Decidable (_ = _))

/-- Only a profile of the same display name has the public id of the enrollment, or, if there is none,
the id that is picked for the new profile. -/
def Spares (service : Service Recording Consent Ages Policy) (draws : Draws)
    (request : SpeakerEnrollRequest Recording Consent Ages)
    (profiles : List (Profile Recording Consent Policy)) : Prop :=
  match findPublic (enrolledPublicId service draws request) profiles with
  | some existing => SameName service.lower existing.displayName request.displayName
  | none =>
    ∀ p ∈ profiles,
      p.profileId = uniqueProfileId draws.profileId (enrolledPublicId service draws request)
        (profiles.map (·.profileId)) → SameName service.lower p.displayName request.displayName

/-- **An enrollment leaves the profiles of other names** exactly if it is refused or spares them. -/
theorem enroll_spares_iff (h : Distinct profiles)
    (request : SpeakerEnrollRequest Recording Consent Ages) :
    (∀ p ∈ profiles, ¬SameName service.lower p.displayName request.displayName →
        p ∈ step service profiles (.enroll draws request)) ↔
      (∃ e, enrollable service draws request = .error e) ∨
        Spares service draws request profiles := by
  cases hrequest : enrollable service draws request with
  | error e =>
    have hstep : step service profiles (.enroll draws request) = profiles := by
      simp only [step, hrequest]
    rw [hstep]
    exact ⟨fun _ => .inl ⟨e, rfl⟩, fun _ p hp _ => hp⟩
  | ok result =>
    obtain ⟨recordings, agePolicy⟩ := result
    have hstep : step service profiles (.enroll draws request) =
        upsert (profileFromEnrollment service draws request recordings agePolicy profiles)
          profiles := by simp only [step, hrequest]
    obtain ⟨hid, hpublic, hversion⟩ := @profileFromEnrollment_of _ _ _ _ service draws profiles
      request recordings agePolicy
    rw [hstep]
    generalize profileFromEnrollment service draws request recordings agePolicy profiles = new at *
    unfold Spares
    unfold enrolledProfileId at hid
    generalize enrolledPublicId service draws request = publicId at *
    simp only [mem_upsert h.ids, reduceCtorEq, exists_false, false_or]
    cases hfound : findPublic publicId profiles with
    | some existing =>
      obtain ⟨hexisting, hsame⟩ := findPublic_some hfound
      simp only [hfound, Option.map_some, Option.getD_some] at hid hversion
      constructor
      · intro hkept
        by_contra hother
        rcases hkept existing hexisting hother with heq | ⟨-, hne⟩
        · rw [← heq] at hversion
          omega
        · exact hne hid.symm
      · intro hname p hp hother
        refine .inr ⟨hp, fun heq => hother ?_⟩
        rwa [eq_of_profileId h hp hexisting (heq.trans hid)]
    | none =>
      simp only [hfound] at hid
      constructor
      · intro hkept p hp heq
        by_contra hother
        rcases hkept p hp hother with rfl | ⟨-, hne⟩
        · exact findPublic_none hfound hp hpublic
        · exact hne (heq.trans hid.symm)
      · intro hnone p hp hother
        exact .inr ⟨hp, fun heq => hother (hnone p hp (heq.trans hid))⟩

end operations

/-- **Profiles are distinct.** -/
theorem enrollment_spares_others (service : Service Recording Consent Ages Policy)
    (operations : List (Operation Recording Consent Ages)) :
    ((run (step service) [] operations).map (·.profileId)).Nodup ∧
      ((run (step service) [] operations).map (·.speakerPublicId)).Nodup ∧
      (∀ draws request,
        (∀ p ∈ run (step service) [] operations,
          ¬SameName service.lower p.displayName request.displayName →
            p ∈ run (step service) [] (operations ++ [.enroll draws request])) ↔
          (∃ e, enrollable service draws request = .error e) ∨
            Spares service draws request (run (step service) [] operations)) ∧
      ∀ operation profileId, operation.target = some profileId →
        ∀ p ∈ run (step service) [] operations, p.profileId ≠ profileId →
          p ∈ run (step service) [] (operations ++ [operation]) := by
  have hall : AllSteps (step service) (fun _ _ => True) [] operations :=
    allSteps_of_forall (fun _ _ => trivial) [] operations
  have hdistinct : Distinct (run (step service) [] operations) :=
    run_invariant (fun profiles operation h _ => h.step operation)
      ⟨List.nodup_nil, List.nodup_nil⟩ hall
  refine ⟨hdistinct.ids, hdistinct.publicIds, fun draws request => ?_,
    fun operation profileId htarget p hp hne => ?_⟩
  · rw [run_append]
    exact enroll_spares_iff hdistinct request
  · rw [run_append]
    exact step_other htarget hp hne

end profiles

/-- A service that takes every recording. -/
def lenientService : Service String Unit Unit Unit where
  lower text := String.ofList (text.toList.map Char.toLower)
  blockingReasons _ := []
  provider _ := "deterministic_signal"
  agePolicy _ _ := .ok ()
  updatedPolicy _ _ _ := .ok ()
  adapterProvider := "deterministic_signal"

/-- An enrollment under a display name. -/
def enrollment (displayName : String) : Operation String Unit Unit :=
  .enroll ⟨"2026-01-01", "00000000", "11111111"⟩
    { displayName := displayName, ages := (), consent := (), recordings := .ok [displayName] }

/-- José and Jos have one public id: enrolling Jos replaces José's profile. -/
theorem profile_replaced :
    ¬∀ (service : Service String Unit Unit Unit) (operations : List (Operation String Unit Unit))
      (draws : Draws) (request : SpeakerEnrollRequest String Unit Unit),
      truthy request.speakerPublicId = none → ∀ p ∈ run (step service) [] operations,
        ¬SameName service.lower p.displayName request.displayName →
          p ∈ run (step service) [] (operations ++ [.enroll draws request]) := by
  intro h
  have hreplaced := h lenientService [enrollment "José"] ⟨"2026-01-02", "00000001", "11111112"⟩
    { displayName := "Jos", ages := (), consent := (), recordings := .ok ["Jos"] } rfl
  revert hreplaced
  decide +kernel

end HexeVoice.Speakers
