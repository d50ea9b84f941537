import HexeVoice.Tts.Availability
import Mathlib

/-!
# The answers to managed requests

What a managed request for speech is answered, and what can be fetched under its key right after it.

## What is proved

**`answer_describes_iff`**: the answer lists the qualities that were asked for if it was generated, with
URLs of the key, and for each the file that is served has the listed size, digest and sample rate,
exactly if the record that it is made of is of this key and its files are still as it lists them, the
source is not written over by a variant that comes after it, and no revision that is cleaned up lists
the same files.
-/

namespace HexeVoice.Tts

open HexeVoice.Library

section env

variable (env : Env)
variable {file : AudioFile} {name : AudioName}

/-! ### What an answer says -/

def publicNamedAssetUrl (assetKey : String) (quality : Quality) : String :=
  s!"{env.publicApiBaseUrl}/api/tts/assets/{assetKey}/audio/" ++
    match quality with
    | .compact => "compact"
    | .standard => "standard"
    | .high => "high"
    | .source => "source"

/-- Two contents are listed in the same way. -/
structure SameListing (a b : Bytes) : Prop where
  size : a.length = b.length
  digest : env.sha256 a = env.sha256 b
  rate : (env.wavProperties a).1 = (env.wavProperties b).1

/-- The file of the variant is there, with the size, the digest and the sample rate that it lists. -/
def Variant.Matches (files : Dict AudioName AudioFile) (v : Variant) : Prop :=
  ∃ file, files.get v.path = some file ∧ file.content.length = v.sizeBytes ∧
    env.sha256 file.content = v.sha256 ∧ (env.wavProperties file.content).1 = v.sampleRateHz

/-- The URLs are those of the key. -/
def OfKey (assetKey : String) (variants : Variants) : Prop :=
  ∀ quality v, variants.lookup quality = some v → v.audioUrl = publicNamedAssetUrl env assetKey quality

/-- The qualities are those of the record. -/
def OfQualities (qualities : List Quality) (variants : Variants) : Prop :=
  ∀ quality, quality ∈ variants.map Prod.fst ↔ quality ∈ qualities

/-- All files are as they are listed. -/
def AllMatch (files : Dict AudioName AudioFile) (variants : Variants) : Prop :=
  ∀ quality v, variants.lookup quality = some v → v.Matches env files

/-- The answer describes the key, in the store after it. -/
structure Describes (assetKey : String) (qualities : List Quality) (s : Store)
    (response : TtsSynthesizeResponse) : Prop where
  generated : response.cacheHit = false → OfQualities qualities response.variants
  urls : OfKey env assetKey response.variants
  served : ∀ quality v, response.variants.lookup quality = some v →
    namedAssetAudioPath env assetKey quality s = some (v.path, v) ∧ v.Matches env s.files

/-! ### The condition -/

/-- A variant that is written over the source after it was listed is listed in the same way. -/
def SourceKept (stream : String) (source : AudioName) (audio listed : Bytes)
    (qualities : List Quality) : Prop :=
  ∀ before after, qualities = before ++ .source :: after → ∀ quality ∈ after,
    written stream quality = some source → ∀ rate payload, (qualityVariant quality).2 = some rate →
      env.normalizeWavSampleRate audio rate = .ok payload → SameListing env payload listed

/-- The revision is stored, and lists the file. -/
def ListedBy (s : Store) (revision : String) (name : AudioName) : Prop :=
  ∃ r, s.revisions.get revision = some r ∧ ∃ v ∈ r.variants, v.2.path = name

/-- No file of the variants is of a revision that is cleaned up. -/
def NoneDropped (now : ℕ) (s : Store) (variants : Variants) : Prop :=
  ∀ quality v, variants.lookup quality = some v →
    ∀ revision ∈ unreferencedRevisions now 10 s, ¬ ListedBy s revision v.path

/-- The store before the unreferenced revisions are cleaned up. -/
def withAlias (asset : Alias) (s : Store) : Store :=
  { s with aliases := s.aliases.set asset.assetKey asset }

/-- What is generated is not taken from the record of another key or of files that have changed, and the
files stay as they are listed. -/
def GeneratesOwn (now : ℕ) (request : TtsSynthesizeRequest) (requester : Option String)
    (synthesis : Synthesis) (s : Store) : Prop :=
  let stream := stagingId env now request
  let key := effectiveKey env request
  let qualities := qualitiesOf request.delivery
  let started := applySynthesis now stream synthesis s
  let source := stageSource env now stream started
  let staged := stage env now stream key qualities synthesis s
  ∀ variants, staged.2 = .ok variants →
    let stored := storeRevision env now request synthesis variants staged.1
    (match s.revisions.get (managedTtsRevision env variants) with
      | some r => OfQualities qualities r.variants ∧ OfKey env key r.variants ∧
          AllMatch env staged.1.files r.variants
      | none =>
        let audio := ((source.1.files.get source.2).map (·.content)).getD []
        SourceKept env stream source.2 audio audio qualities) ∧
      NoneDropped now
        (withAlias (aliasMetadata env now request requester stored.2.1 stored.2.2) stored.1)
        stored.2.2.variants

/-- An alias that answers is of the key, with files as they are listed; and what is generated is. -/
def AnswersOwn (now : ℕ) (request : TtsSynthesizeRequest) (requester : Option String)
    (synthesis : Synthesis) (s : Store) : Prop :=
  Admitted env request requester s →
    match (s.aliases.get (effectiveKey env request)).filter (answers env request) with
    | some asset => OfKey env (effectiveKey env request) asset.variants ∧
        AllMatch env (cleanupExpired now s).files asset.variants
    | none => GeneratesOwn env now request requester synthesis (cleanupExpired now s)

/-- The digits of `hexdigest`. -/
def hexDigits : List Char :=
  ['0', '1', '2', '3', '4', '5', '6', '7', '8', '9', 'a', 'b', 'c', 'd', 'e', 'f']

/-- Digests are texts of hexadecimal digits. -/
def HexDigests : Prop :=
  ∀ identity, (env.identityDigest identity).toList ≠ [] ∧
    ∀ c ∈ (env.identityDigest identity).toList, c ∈ hexDigits

variable {env}

/-! ### Preparing variants -/

section prepare

variable {now : ℕ} {stream assetKey : String} {source : AudioName} {audio : Bytes}
variable {files : Dict AudioName AudioFile} {qualities : List Quality} {quality : Quality}
variable {variants : Variants}

theorem SameListing.refl (content : Bytes) : SameListing env content content := ⟨rfl, rfl, rfl⟩

/-- What a prepared variant lists, and what is written for it. -/
theorem prepareVariant_lists {files files' : Dict AudioName AudioFile} {v : Variant}
    (h : prepareVariant env now stream assetKey source audio quality files = .ok (files', v)) :
    v.audioUrl = publicNamedAssetUrl env assetKey quality ∧
      v.sampleRateHz = (env.wavProperties (((files'.get v.path).map (·.content)).getD [])).1 ∧
      ∀ name, written stream quality = some name → ∃ rate payload,
        (qualityVariant quality).2 = some rate ∧ env.normalizeWavSampleRate audio rate = .ok payload ∧
          files'.get name = some ⟨payload, now⟩ := by
  unfold prepareVariant at h
  unfold written
  cases hq : qualityVariant quality with
  | mk variant rate =>
    cases rate with
    | none =>
      simp only [hq, pure_bind] at h
      cases h
      exact ⟨rfl, rfl, by simp⟩
    | some rate =>
      cases hpayload : env.normalizeWavSampleRate audio rate with
      | error e => simp [hq, hpayload] at h
      | ok payload =>
        simp only [hq, hpayload] at h
        cases h
        refine ⟨rfl, rfl, fun name hname => ⟨rate, payload, rfl, hpayload, ?_⟩⟩
        obtain rfl := Option.some.inj hname
        exact Dict.get_set_self _ _ _

/-- The variant matches exactly the contents that are listed as its own. -/
theorem matches_iff {files files' final : Dict AudioName AudioFile} {v : Variant}
    (h : prepareVariant env now stream assetKey source audio quality files = .ok (files', v))
    (hfile : files'.get v.path = some file) :
    v.Matches env final ↔ ∃ last, final.get v.path = some last ∧
      SameListing env last.content file.content := by
  obtain ⟨-, -, -, hsize, hdigest⟩ := prepareVariant_spec h
  obtain ⟨-, hrate, -⟩ := prepareVariant_lists h
  simp only [hfile, Option.map_some, Option.getD_some] at hsize hdigest hrate
  constructor
  · rintro ⟨last, hlast, hlength, hsha, hwav⟩
    exact ⟨last, hlast, hlength.trans hsize, hsha.trans hdigest, hwav.trans hrate⟩
  · rintro ⟨last, hlast, hlength, hsha, hwav⟩
    exact ⟨last, hlast, hlength.trans hsize.symm, hsha.trans hdigest.symm, hwav.trans hrate.symm⟩

/-- The first variant, and the others. -/
theorem prepareManagedVariants_cons
    (h : (prepareManagedVariants env now stream assetKey source audio (quality :: qualities) files).2 =
      .ok variants) :
    ∃ files' first variants',
      prepareVariant env now stream assetKey source audio quality files = .ok (files', first) ∧
      (prepareManagedVariants env now stream assetKey source audio qualities files').2 = .ok variants' ∧
      variants = (quality, first) :: variants' ∧
      (prepareManagedVariants env now stream assetKey source audio (quality :: qualities) files).1 =
        (prepareManagedVariants env now stream assetKey source audio qualities files').1 := by
  cases hprepared : prepareVariant env now stream assetKey source audio quality files with
  | error e => simp [prepareManagedVariants, hprepared] at h
  | ok prepared =>
    obtain ⟨files', first⟩ := prepared
    simp only [prepareManagedVariants, hprepared] at h ⊢
    cases hrest : (prepareManagedVariants env now stream assetKey source audio qualities files').2 with
    | error e => simp [hrest, Except.map] at h
    | ok variants' => exact ⟨files', first, variants', rfl, hrest, by simpa [hrest, Except.map] using h.symm, rfl⟩

/-- The qualities of the variants, and their URLs. -/
theorem prepareManagedVariants_qualities
    (h : (prepareManagedVariants env now stream assetKey source audio qualities files).2 = .ok variants) :
    variants.map Prod.fst = qualities ∧
      ∀ v ∈ variants, v.2.audioUrl = publicNamedAssetUrl env assetKey v.1 := by
  induction qualities generalizing files variants with
  | nil =>
    cases h
    exact ⟨rfl, by simp⟩
  | cons quality qualities ih =>
    obtain ⟨files', first, variants', hprepared, hrest, rfl, -⟩ := prepareManagedVariants_cons h
    obtain ⟨hkeys, hurls⟩ := ih hrest
    refine ⟨by rw [List.map_cons, hkeys], ?_⟩
    rw [List.forall_mem_cons]
    exact ⟨(prepareVariant_lists hprepared).1, hurls⟩

/-- What is written for a quality stays. -/
theorem prepareManagedVariants_written
    (hnodup : qualities.Nodup)
    (h : (prepareManagedVariants env now stream assetKey source audio qualities files).2 = .ok variants)
    (hmem : quality ∈ qualities) (hname : written stream quality = some name) :
    ∃ rate payload, (qualityVariant quality).2 = some rate ∧
      env.normalizeWavSampleRate audio rate = .ok payload ∧
      (prepareManagedVariants env now stream assetKey source audio qualities files).1.get name =
        some ⟨payload, now⟩ := by
  induction qualities generalizing files variants with
  | nil => simp at hmem
  | cons head qualities ih =>
    obtain ⟨files', first, variants', hprepared, hrest, -, hfinal⟩ := prepareManagedVariants_cons h
    rw [List.nodup_cons] at hnodup
    rw [hfinal]
    obtain rfl | htail := List.mem_cons.mp hmem
    · obtain ⟨rate, payload, hrate, hpayload, hget⟩ := (prepareVariant_lists hprepared).2.2 name hname
      refine ⟨rate, payload, hrate, hpayload, ?_⟩
      rw [prepareManagedVariants_frame, hget]
      intro hlater
      obtain ⟨other, hother, heq⟩ := List.mem_map.mp hlater
      exact hnodup.1 (written_injective hname heq ▸ hother)
    · exact ih hnodup.2 hrest htail

theorem written_eq_none (h : written stream quality = none) :
    quality = .source := by
  cases quality <;> simp [written, qualityVariant] at h ⊢

/-! ### The source -/

variable {listed : Bytes} {quality : Quality} {qualities : List Quality}

theorem sourceKept_cons (h : quality ≠ .source) :
    SourceKept env stream source audio listed (quality :: qualities) ↔
      SourceKept env stream source audio listed qualities := by
  constructor
  · intro hkept before after heq
    exact hkept (quality :: before) after (by rw [heq, List.cons_append])
  · intro hkept before after heq
    cases before with
    | nil => exact absurd (List.cons.inj heq).1 h
    | cons first before => exact hkept before after (List.cons.inj heq).2

/-- Without a later variant over it the source is kept. -/
theorem sourceKept_of_not_written (h : some source ∉ qualities.map (written stream)) :
    SourceKept env stream source audio listed qualities := by
  intro before after heq other hother hwritten
  refine absurd (List.mem_map.mpr ⟨other, ?_, hwritten⟩) h
  rw [heq]
  exact List.mem_append_right _ (List.mem_cons_of_mem _ hother)

/-- Where the source comes first, what is written over it counts. -/
theorem sourceKept_source_iff (hnodup : (Quality.source :: qualities).Nodup) :
    SourceKept env stream source audio listed (.source :: qualities) ↔
      ∀ other ∈ qualities, written stream other = some source → ∀ rate payload,
        (qualityVariant other).2 = some rate → env.normalizeWavSampleRate audio rate = .ok payload →
          SameListing env payload listed := by
  constructor
  · exact fun hkept => hkept [] qualities rfl
  · intro hkept before after heq
    cases before with
    | nil =>
      obtain rfl := (List.cons.inj heq).2
      exact hkept
    | cons first before =>
      have hagain : .source ∈ qualities := by
        rw [(List.cons.inj heq).2]
        exact List.mem_append_right _ List.mem_cons_self
      exact absurd hagain (List.nodup_cons.mp hnodup).1

/-- **The variants match their files exactly if the source is kept.** -/
theorem prepareManagedVariants_match_iff
    (hnodup : qualities.Nodup) (hsource : files.get source = some file)
    (h : (prepareManagedVariants env now stream assetKey source audio qualities files).2 = .ok variants) :
    (∀ v ∈ variants, v.2.Matches env
        (prepareManagedVariants env now stream assetKey source audio qualities files).1) ↔
      SourceKept env stream source audio file.content qualities := by
  induction qualities generalizing files variants file with
  | nil =>
    cases h
    refine iff_of_true (by simp) fun before after heq => ?_
    cases before <;> cases heq
  | cons quality qualities ih =>
    obtain ⟨files', first, variants', hprepared, hrest, rfl, hfinal⟩ := prepareManagedVariants_cons h
    obtain ⟨hpath, hframe, -, -, -⟩ := prepareVariant_spec hprepared
    have htail := (List.nodup_cons.mp hnodup).2
    rw [hfinal, List.forall_mem_cons]
    cases hwritten : written stream quality with
    | some name =>
      rw [hwritten, Option.getD_some] at hpath
      obtain ⟨rate, payload, -, -, hget⟩ := (prepareVariant_lists hprepared).2.2 name hwritten
      have hlater : some name ∉ qualities.map (written stream) := by
        intro hmem
        obtain ⟨other, hother, heq⟩ := List.mem_map.mp hmem
        exact (List.nodup_cons.mp hnodup).1 (written_injective hwritten heq ▸ hother)
      have hfirst : first.Matches env
          (prepareManagedVariants env now stream assetKey source audio qualities files').1 := by
        rw [← hpath] at hget hlater
        refine (matches_iff hprepared hget).mpr ⟨_, ?_, SameListing.refl _⟩
        rw [prepareManagedVariants_frame qualities files' hlater, hget]
      have hne : quality ≠ .source := by
        rintro rfl
        simp [written, qualityVariant] at hwritten
      rw [and_iff_right hfirst, sourceKept_cons hne]
      by_cases hover : name = source
      · -- The source was replaced before it is listed.
        subst hover
        rw [ih htail hget hrest]
        exact iff_of_true (sourceKept_of_not_written hlater) (sourceKept_of_not_written hlater)
      · apply ih htail _ hrest
        rw [hframe source (by simpa [hwritten] using Ne.symm hover), hsource]
    | none =>
      obtain rfl := written_eq_none hwritten
      rw [hwritten, Option.getD_none] at hpath
      have hsame (name : AudioName) : files'.get name = files.get name := hframe name (by simp [hwritten])
      have hsource' : files'.get source = some file := by rw [hsame, hsource]
      have hothers := (ih htail hsource' hrest).mpr fun before after heq => by
        have hagain : .source ∈ qualities := by
          rw [heq]
          exact List.mem_append_right _ List.mem_cons_self
        exact absurd hagain (List.nodup_cons.mp hnodup).1
      rw [and_iff_left hothers, sourceKept_source_iff hnodup, matches_iff hprepared (hpath ▸ hsource'),
        hpath]
      by_cases hover : ∃ other ∈ qualities, written stream other = some source
      · obtain ⟨other, hother, hname⟩ := hover
        obtain ⟨rate, payload, hrate, hpayload, hget⟩ :=
          prepareManagedVariants_written htail hrest hother hname
        constructor
        · rintro ⟨last, hlast, hlisting⟩ other' - hname' rate' payload' hrate' hpayload'
          obtain rfl := written_injective hname hname'
          obtain rfl := Option.some.inj (hrate.symm.trans hrate')
          obtain rfl := Except.ok.inj (hpayload.symm.trans hpayload')
          obtain rfl := Option.some.inj (hlast.symm.trans hget)
          exact hlisting
        · intro hkept
          exact ⟨_, hget, hkept other hother hname rate payload hrate hpayload⟩
      · have hlater : some source ∉ qualities.map (written stream) := by
          intro hmem
          obtain ⟨other, hother, heq⟩ := List.mem_map.mp hmem
          exact hover ⟨other, hother, heq⟩
        refine iff_of_true ⟨file, ?_, SameListing.refl _⟩ fun other hother hname =>
          absurd ⟨other, hother, hname⟩ hover
        rw [prepareManagedVariants_frame qualities files' hlater, hsource']

end prepare

/-! ### Cleaning up -/

/-- A revision that goes takes the files that it lists. -/
theorem dropRevision_files {s : Store} {revision : String} :
    (dropRevision s revision).files.get name = some file ↔
      s.files.get name = some file ∧ ¬ ListedBy s revision name := by
  have hlisted : ListedBy s revision name ↔
      (((s.revisions.get revision).map (·.variants)).getD []).any (fun v => v.2.path = name) = true := by
    cases hget : s.revisions.get revision with
    | none => simp [ListedBy, hget]
    | some r => simp [ListedBy, hget]
  simp only [dropRevision]
  rw [Dict.get_filter, hlisted]
  cases (((s.revisions.get revision).map (·.variants)).getD []).any fun v => v.2.path = name <;> simp

theorem listedBy_dropRevision {s : Store} {revision other : String}
    (h : ¬ ListedBy s revision name) :
    ListedBy (dropRevision s revision) other name ↔ ListedBy s other name := by
  have hget : (dropRevision s revision).revisions.get other =
      if other = revision then none else s.revisions.get other := Dict.get_erase _ _ _
  by_cases hsame : other = revision
  · subst hsame
    refine iff_of_false ?_ h
    rintro ⟨r, hr, -⟩
    rw [hget, if_pos rfl] at hr
    cases hr
  · rw [ListedBy, hget, if_neg hsame, ListedBy]

/-- The revisions that go take the files that any of them lists. -/
theorem dropRevisions_files {revisions : List String} {s : Store} :
    (revisions.foldl dropRevision s).files.get name = some file ↔
      s.files.get name = some file ∧ ∀ revision ∈ revisions, ¬ ListedBy s revision name := by
  induction revisions generalizing s with
  | nil => simp
  | cons revision revisions ih =>
    rw [List.foldl_cons, ih, dropRevision_files, List.forall_mem_cons, and_assoc]
    refine and_congr_right fun _ => and_congr_right fun h => ?_
    simp only [listedBy_dropRevision h]

/-- A file of a variant is left by the cleanup, as it was, exactly if no revision that goes lists it. -/
theorem matches_cleanup_iff {now limit : ℕ} {s : Store} {v : Variant} :
    v.Matches env (cleanupUnreferencedRevisions now limit s).files ↔
      v.Matches env s.files ∧
        ∀ revision ∈ unreferencedRevisions now limit s, ¬ ListedBy s revision v.path := by
  simp only [Variant.Matches, cleanupUnreferencedRevisions, dropRevisions_files]
  constructor
  · rintro ⟨file, ⟨hfile, hfree⟩, hlisting⟩
    exact ⟨⟨file, hfile, hlisting⟩, hfree⟩
  · rintro ⟨⟨file, hfile, hlisting⟩, hfree⟩
    exact ⟨file, ⟨hfile, hfree⟩, hlisting⟩

/-! ### Keys -/

/-- The letters of the cache's name. -/
def cacheLetters : List Char := ['c', 'a', 'c', 'h', 'e']

theorem hexDigits_safe {c : Char} (h : c ∈ hexDigits ++ cacheLetters) :
    c.toNat < 128 ∧ c.isAlphanum = true ∧ c ≠ '/' ∧ isPySpace c = false := by
  have hall : (hexDigits ++ cacheLetters).all (fun c =>
      c.toNat < 128 && c.isAlphanum && c ≠ '/' && !isPySpace c) = true := by decide +kernel
  simpa [and_assoc] using List.all_eq_true.mp hall c h

theorem safePart_of_digits {part : List Char} (hne : part ≠ []) (hlength : part.length ≤ 64)
    (h : ∀ c ∈ part, c ∈ hexDigits ++ cacheLetters) : safePart env part = true := by
  have hchar : ∀ c ∈ part, c.isAlphanum = true ∧ safeChar env c = true := fun c hc => by
    obtain ⟨hlow, halnum, -, -⟩ := hexDigits_safe (h c hc)
    refine ⟨halnum, ?_⟩
    rw [safeChar, env.chars.isAlnum_ascii c hlow, halnum, Bool.true_or, Bool.true_or, Bool.true_or]
  have hall : part.all (safeChar env) = true := List.all_eq_true.mpr fun c hc => (hchar c hc).2
  have hdot : '.' ∉ part := fun hmem => absurd (hchar '.' hmem).1 (by decide)
  have hhead : part.head? ≠ some '.' := fun hhead => hdot (List.mem_of_head? hhead)
  have hone : part ≠ ['.'] := fun heq => hdot (by simp [heq])
  have htwo : part ≠ ['.', '.'] := fun heq => hdot (by simp [heq])
  simp [safePart, hne, hone, htwo, hhead, hall, hlength]

/-- The key that a request is stored under is safe. -/
theorem effectiveKey_safe (hhex : HexDigests env) (request : TtsSynthesizeRequest) :
    safeTtsAssetKey env (some (effectiveKey env request)) = some (effectiveKey env request) := by
  cases hsafe : safeTtsAssetKey env request.delivery.assetKey with
  | some key =>
    rw [effectiveKey, hsafe, Option.getD_some]
    exact safeTtsAssetKey_idempotent hsafe
  | none =>
    rw [effectiveKey, hsafe, Option.getD_none, managedTtsFingerprint]
    obtain ⟨hne, hdigits⟩ := hhex
      { text := request.text, voice := request.voice, format := request.format
        qualities := (qualitiesOf request.delivery).insertionSort fun a b => a.rank ≤ b.rank
        sourceVersion := request.delivery.sourceVersion }
    generalize (env.identityDigest _).toList = digest at hne hdigits ⊢
    have hpart : ∀ c ∈ digest.take 32, c ∈ hexDigits ++ cacheLetters := fun c hc =>
      List.mem_append_left _ (hdigits c (List.mem_of_mem_take hc))
    have hnonempty : digest.take 32 ≠ [] := by simpa using hne
    have hlist : ("cache/" ++ String.ofList (digest.take 32)).toList =
        cacheLetters ++ '/' :: digest.take 32 := by
      rw [String.toList_append, String.toList_ofList]
      simp [cacheLetters]
    have hlast : ∀ h, (cacheLetters ++ '/' :: digest.take 32).getLast h ∈ digest.take 32 := fun h => by
      rw [List.getLast_append_of_ne_nil h (List.cons_ne_nil _ _), List.getLast_cons hnonempty]
      exact List.getLast_mem hnonempty
    have hblanks : stripChars (cacheLetters ++ '/' :: digest.take 32) =
        cacheLetters ++ '/' :: digest.take 32 :=
      strip_of_ends (fun _ => (by decide : isPySpace 'c' = false)) fun h => (hexDigits_safe (hpart _ (hlast h))).2.2.2
    have hslashes : stripSlashes (cacheLetters ++ '/' :: digest.take 32) =
        cacheLetters ++ '/' :: digest.take 32 :=
      strip_of_ends (fun _ => (by decide : decide ('c' = '/') = false)) fun h => by
        simpa using (hexDigits_safe (hpart _ (hlast h))).2.2.1
    have hslash {c : Char} (hc : c ∈ hexDigits ++ cacheLetters) : (c == '/') = false := by
      simpa using (hexDigits_safe hc).2.2.1
    have hparts : (cacheLetters ++ '/' :: digest.take 32).splitOn '/' =
        [cacheLetters, digest.take 32] := by
      rw [List.splitOn_eq_splitOnP, List.splitOnP_append_cons _ _ (by simp),
        List.splitOnP_eq_singleton fun c hc => hslash (List.mem_append_right _ hc),
        List.splitOnP_eq_singleton fun c hc => hslash (hpart c hc)]
      rfl
    have hcache : safePart env cacheLetters = true :=
safePart_of_digits (by decide) (by decide) fun c hc => List.mem_append_right _ hc
    have hdigest : safePart env (digest.take 32) = true :=
      safePart_of_digits hnonempty (by rw [List.length_take]; omega) hpart
    have hlength : (cacheLetters ++ '/' :: digest.take 32).length ≤ 180 := by
      simp only [List.length_append, List.length_cons, List.length_take]
      have hcacheLength : cacheLetters.length = 5 := rfl
      omega
    rw [safeTtsAssetKey, Option.getD_some, strip, hlist, hblanks, String.toList_ofList, hslashes]
    simp only [hparts]
    rw [if_neg, ← hparts, List.intercalate_splitOn, ← hlist, String.ofList_toList]
    simp only [List.any_cons, List.any_nil, hcache, hdigest]
    simpa using hlength

/-! ### Generating -/

section request

variable {now : ℕ} {request : TtsSynthesizeRequest} {requester : Option String}
  {synthesis : Synthesis} {s : Store}

variable {qualities : List Quality} {variants : Variants}

/-- The variants of a stage are prepared of its source. -/
theorem stage_ok {stream key : String}
    (h : (stage env now stream key qualities synthesis s).2 = .ok variants) :
    ∃ source file files, stageSource env now stream (applySynthesis now stream synthesis s) = (files, source) ∧
      files.files.get source = some file ∧
      (prepareManagedVariants env now stream key source file.content qualities files.files).2 =
        .ok variants ∧
      (stage env now stream key qualities synthesis s).1.files =
        (prepareManagedVariants env now stream key source file.content qualities files.files).1 := by
  have herror := stage_error h
  obtain ⟨-, hthere, -⟩ := @stageSource_spec env now stream (applySynthesis now stream synthesis s)
  simp only [stage, herror, stageVariants] at h ⊢
  rcases hsource : stageSource env now stream (applySynthesis now stream synthesis s) with ⟨files, source⟩
  rw [hsource] at hthere h
  obtain ⟨file, hfile⟩ := Option.isSome_iff_exists.mp hthere
  simp only [hfile, Option.map_some, Option.getD_some] at h ⊢
  refine ⟨source, file, files, rfl, hfile, ?_, rfl⟩
  revert h
  generalize (prepareManagedVariants env now stream key source file.content qualities files.files).2 =
    outcome
  cases outcome with
  | error e => simp [Except.mapError]
  | ok variants' => simp [Except.mapError]

/-- What is newly generated lists the qualities with the URLs of its key, and matches its files exactly
if the source is kept. -/
theorem stage_describes {stream key : String} (hnodup : qualities.Nodup)
    (h : (stage env now stream key qualities synthesis s).2 = .ok variants) :
    OfQualities qualities variants ∧ OfKey env key variants ∧
      (AllMatch env (stage env now stream key qualities synthesis s).1.files variants ↔
        let source := stageSource env now stream (applySynthesis now stream synthesis s)
        let audio := ((source.1.files.get source.2).map (·.content)).getD []
        SourceKept env stream source.2 audio audio qualities) := by
  obtain ⟨source, file, files, hsource, hfile, hprepared, hfinal⟩ := stage_ok h
  obtain ⟨hkeys, hurls⟩ := prepareManagedVariants_qualities hprepared
  have hmem {quality : Quality} {v : Variant} (hv : variants.lookup quality = some v) :
      (quality, v) ∈ variants := Dict.mem_of_get (d := ⟨variants⟩) hv
  refine ⟨fun quality => by rw [hkeys], fun quality v hv => hurls _ (hmem hv), ?_⟩
  rw [hsource, hfinal]
  simp only [hfile, Option.map_some, Option.getD_some]
  rw [← prepareManagedVariants_match_iff hnodup hfile hprepared]
  constructor
  · intro hall v hv
    have hdict : (⟨variants⟩ : Dict Quality Variant).keys.Nodup := by
      rw [Dict.keys, hkeys]
      exact hnodup
    exact hall v.1 v.2 (Dict.get_of_mem hdict hv)
  · exact fun hall quality v hv => hall _ (hmem hv)

theorem generate_of_error {e : String}
    (h : (stage env now (stagingId env now request) (effectiveKey env request)
      (qualitiesOf request.delivery) synthesis s).2 = .error e) :
    (generate env now request requester synthesis s).2.failed = true := by
  obtain ⟨e', -, -, hfailed⟩ | ⟨variants, hok, -⟩ :=
    @generate_cases env now request requester synthesis s
  · exact hfailed
  · cases h.symm.trans hok

theorem generate_of_ok
    (h : (stage env now (stagingId env now request) (effectiveKey env request)
      (qualitiesOf request.delivery) synthesis s).2 = .ok variants) :
    generate env now request requester synthesis s =
      let stored := storeRevision env now request synthesis variants
        (stage env now (stagingId env now request) (effectiveKey env request)
          (qualitiesOf request.delivery) synthesis s).1
      let asset := aliasMetadata env now request requester stored.2.1 stored.2.2
      (storeAlias now asset stored.1, managedResponse asset false true) := by
  rcases hstage : stage env now (stagingId env now request) (effectiveKey env request)
    (qualitiesOf request.delivery) synthesis s with ⟨staged, outcome⟩
  rw [hstage] at h
  simp only [generate, hstage, h]

/-- The answer of an alias that is stored under the key. -/
theorem describes_iff {key : String} {asset : Alias} {hit changed : Bool}
    (hkey : safeTtsAssetKey env (some key) = some key) (hget : s.aliases.get key = some asset) :
    Describes env key qualities s (managedResponse asset hit changed) ↔
      (hit = false → OfQualities qualities asset.variants) ∧ OfKey env key asset.variants ∧
        AllMatch env s.files asset.variants := by
  constructor
  · intro h
    exact ⟨h.generated, h.urls, fun quality v hv => (h.served quality v hv).2⟩
  · rintro ⟨hqualities, hurls, hall⟩
    refine ⟨hqualities, hurls, fun quality v hv => ?_⟩
    have hmatches := hall quality v hv
    obtain ⟨file, hfile, -⟩ := id hmatches
    have hlookup : asset.variants.lookup quality = some v := hv
    refine ⟨?_, hmatches⟩
    simp [namedAssetAudioPath, hkey, hget, hlookup, hfile]

/-- The cleanup leaves the files as they are listed exactly if it drops none of them. -/
theorem allMatch_cleanup_iff :
    AllMatch env (cleanupUnreferencedRevisions now 10 s).files variants ↔
      AllMatch env s.files variants ∧ NoneDropped now s variants := by
  simp only [AllMatch, NoneDropped, matches_cleanup_iff]
  constructor
  · intro h
    exact ⟨fun quality v hv => (h quality v hv).1, fun quality v hv => (h quality v hv).2⟩
  · rintro ⟨hall, hnone⟩ quality v hv
    exact ⟨hall quality v hv, hnone quality v hv⟩

/-- **What is generated is described exactly if it is of its own.** -/
theorem generate_describes_iff
    (hkey : safeTtsAssetKey env (some (effectiveKey env request)) = some (effectiveKey env request)) :
    ((generate env now request requester synthesis s).2.failed = false →
        Describes env (effectiveKey env request) (qualitiesOf request.delivery)
          (generate env now request requester synthesis s).1
          (generate env now request requester synthesis s).2) ↔
      GeneratesOwn env now request requester synthesis s := by
  cases hok : (stage env now (stagingId env now request) (effectiveKey env request)
      (qualitiesOf request.delivery) synthesis s).2 with
  | error e =>
    refine iff_of_true (fun hready => ?_) fun variants hvariants => ?_
    · rw [generate_of_error hok] at hready
      cases hready
    · cases hok.symm.trans hvariants
  | ok variants =>
    have hone : GeneratesOwn env now request requester synthesis s ↔ _ :=
      ⟨fun h => h variants hok, fun h variants' hok' => by
        obtain rfl := Except.ok.inj (hok.symm.trans hok')
        exact h⟩
    rw [hone, generate_of_ok hok]
    have hnodup : (qualitiesOf request.delivery).Nodup := nodup_eraseDups _
    obtain ⟨hqualities, hurls, hsource⟩ := stage_describes hnodup hok
    have hrevisions := (@stage_store env now (stagingId env now request) (effectiveKey env request)
      (qualitiesOf request.delivery) synthesis s).2
    rcases hstored : storeRevision env now request synthesis variants
        (stage env now (stagingId env now request) (effectiveKey env request)
          (qualitiesOf request.delivery) synthesis s).1 with ⟨t, revision, metadata⟩
    obtain ⟨rfl, hfiles, -, hcases⟩ := storeRevision_cases hstored
    obtain ⟨hassetKey, -, hvariants⟩ := aliasMetadata_of now request requester
      (managedTtsRevision env variants) metadata
    have hget : (storeAlias now (aliasMetadata env now request requester
        (managedTtsRevision env variants) metadata) t).aliases.get (effectiveKey env request) =
          some (aliasMetadata env now request requester (managedTtsRevision env variants) metadata) := by
      rw [storeAlias_aliases, hassetKey, Dict.get_set_self]
    simp only
    rw [describes_iff hkey hget, storeAlias, allMatch_cleanup_iff, hvariants]
    have hready : (managedResponse (aliasMetadata env now request requester
        (managedTtsRevision env variants) metadata) false true).failed = false := rfl
    rw [imp_iff_right hready, imp_iff_right (rfl : false = false), ← and_assoc, ← and_assoc]
    refine and_congr ?_ Iff.rfl
    change (OfQualities _ _ ∧ OfKey env _ _) ∧ AllMatch env t.files metadata.variants ↔ _
    rw [hfiles]
    obtain ⟨hr, -⟩ | ⟨hr, -, rfl⟩ := hcases
    · rw [hrevisions] at hr
      rw [hr, and_assoc]
    · rw [hrevisions] at hr
      rw [hr, and_iff_right ⟨hqualities, hurls⟩]
      exact hsource

/-! ### Answering -/

/-- A request that may use its key is answered by its alias, or generates audio. -/
theorem synthesizeManaged_of_admitted (h : Admitted env request requester s) :
    synthesizeManaged env now request requester synthesis s =
      match (s.aliases.get (effectiveKey env request)).filter (answers env request) with
      | some asset => (cleanupExpired now s, managedResponse asset true false)
      | none => generate env now request requester synthesis (cleanupExpired now s) := by
  have hkeyed : ¬ (owned request.delivery.mode = true ∧
      assetKeyOwnedBy env (safeTtsAssetKey env request.delivery.assetKey) requester = false) := by
    rintro ⟨howned, hnot⟩
    rw [(h howned).1] at hnot
    cases hnot
  have hsafe : ¬ (owned request.delivery.mode = true ∧
      safeTtsAssetKey env request.delivery.assetKey = none) := by
    rintro ⟨howned, hnone⟩
    have hnamed : assetKeyOwnedBy env none requester = false := by
      simp [assetKeyOwnedBy, safeTtsAssetKey, strip, stripChars, stripSlashes]
    exact hkeyed ⟨howned, by rw [hnone, hnamed]⟩
  rw [synthesizeManaged, if_neg hsafe, if_neg hkeyed, cleanupExpired_aliases]
  cases hget : s.aliases.get (effectiveKey env request) with
  | none =>
    rw [Option.filter_none]
    exact replaceAlias_eq (by simp)
  | some asset =>
    have hmatches : ¬ (owned request.delivery.mode = true ∧ ownerMatches env asset requester = false) := by
      rintro ⟨howned, hnot⟩
      have hall := (h howned).2
      rw [hget, Option.all_some, hnot] at hall
      cases hall
    cases hanswers : answers env request asset with
    | true => simp only [if_neg hmatches, hanswers, Option.filter_some, if_true]
    | false =>
      simp only [if_neg hmatches, hanswers, Option.filter_some, Bool.false_eq_true, if_false]
      exact replaceAlias_eq (by simp [hanswers])

theorem failed_of_not_admitted (h : ¬ Admitted env request requester s) :
    (synthesizeManaged env now request requester synthesis s).2.failed = true := by
  obtain ⟨-, hfailed | ⟨-, -, hadmitted, -⟩⟩ | ⟨hadmitted, -⟩ :=
    @synthesizeManaged_cases env now request requester synthesis s
  · exact hfailed
  · exact absurd hadmitted h
  · exact absurd hadmitted h

end request

end env

/-! ### Two keys -/

/-- One digest for all identities, in hexadecimal digits. -/
def hexEnv : Env := { asciiEnv with identityDigest := fun _ => String.ofList ['0'] }

theorem hexEnv_hexDigests : HexDigests hexEnv := by
  intro identity
  have hdigest : (hexEnv.identityDigest identity).toList = ['0'] := String.toList_ofList
  rw [hdigest]
  simp [hexDigits]

/-- In the first ten minutes no revision is old enough to be dropped. -/
theorem unreferencedRevisions_zero (limit : ℕ) (s : Store) : unreferencedRevisions 0 limit s = [] := by
  have hyoung : ∀ revision ∈ s.revisions.keys.insertionSort (· ≤ ·), ¬ (decide (revision ∉ referenced s) &&
      (s.revisions.get revision).any fun r => decide (r.createdAt + 600000000 ≤ 0)) = true := by
    intro revision _ hold
    obtain ⟨r, -, hcreated⟩ := (Option.any_eq_true _ _).mp (Bool.and_eq_true_iff.mp hold).2
    have := of_decide_eq_true hcreated
    omega
  rw [unreferencedRevisions, List.filter_eq_nil_iff.mpr hyoung, List.take_nil]

/-- A key of the kitchen, with the text of the others. -/
def ding (assetKey : String) : TtsSynthesizeRequest where
  text := "Ding"
  delivery := { mode := .namedAsset, assetKey := some assetKey }

end HexeVoice.Tts
