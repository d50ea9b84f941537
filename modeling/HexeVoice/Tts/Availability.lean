import HexeVoice.Tts.Assets

/-!
# Speech assets stay available

Three cleaners and every synthesis write to or delete from one directory of audio files, in which the
files of assets lie too.

## What is proved

**`assets_available`**: in a run in which no cleaner finds the files of an asset among those it
deletes and no synthesis generates an asset's files anew with other content (`ServesOn`), every alias
that has not expired lists files that are there as it records them, and an expired alias answers no
request.

Revisions do not share files (`Kept`), so that dropping an unreferenced revision takes no file from an
alias.
-/

namespace HexeVoice.Tts

open HexeVoice.Library

section env

variable (env : Env)

/-! ### Availability -/

/-- The file is there, as it is recorded. -/
def Variant.intact (files : Dict AudioName AudioFile) (v : Variant) : Bool :=
  (files.get v.path).any fun file =>
    file.content.length = v.sizeBytes && env.sha256 file.content = v.sha256

def intact (files : Dict AudioName AudioFile) (variants : Variants) : Bool :=
  variants.all fun v => v.2.intact env files

/-- The alias has not expired. -/
def live (now : ℕ) (asset : Alias) : Bool := asset.expiresAt.all (now < ·)

/-- What is promised of the aliases at a time. -/
def Available (now : ℕ) (s : Store) : Prop :=
  ∀ key asset, s.aliases.get key = some asset → live now asset = true →
    intact env s.files asset.variants = true

/-- The variants of the aliases that have not expired. -/
def promised (now : ℕ) (aliases : Dict String Alias) : List Variant :=
  (aliases.values.filter (live now)).flatMap fun asset => asset.variants.map (·.2)

/-! ### The condition on a call -/

/-- No file that is promised is of a stream whose sidecar has expired. -/
def NoneExpired (now : ℕ) (s : Store) : Prop :=
  ∀ v ∈ promised now s.aliases,
    (s.sidecars.get v.path.stream).all (fun m => decide (now < m.expiresAt)) = true

/-- No file that is promised is old and without a sidecar. -/
def NoneOrphaned (now minAgeSeconds : ℕ) (s : Store) : Prop :=
  ∀ v ∈ promised now s.aliases,
    (s.files.get v.path).all (fun file => !orphaned now minAgeSeconds s v.path file) = true

/-- The file that is written for a quality. -/
def written (stream : String) (quality : Quality) : Option AudioName :=
  (qualityVariant quality).2.map fun _ => ⟨stream, (qualityVariant quality).1 ++ ".wav"⟩

/-- What is generated leaves the content of the files in `names` as it is. -/
def SameContent (names : List AudioName) (files files' : Dict AudioName AudioFile) : Prop :=
  ∀ name ∈ names, (files'.get name).map (·.content) = (files.get name).map (·.content)

/-- Generating audio changes no file that other keys, or if it fails any key, are promised; the revision
that is generated is the only one with files of the stage, and is intact if it was stored before; and
the source of a variant is not overwritten by another one. -/
def GeneratesApart (now : ℕ) (request : TtsSynthesizeRequest) (synthesis : Synthesis) (s : Store) :
    Prop :=
  let stream := stagingId env now request
  let key := effectiveKey env request
  let qualities := qualitiesOf request.delivery
  let staged := stage env now stream key qualities synthesis s
  match staged.2 with
  | .error _ => SameContent ((promised now s.aliases).map (·.path)) s.files staged.1.files
  | .ok variants =>
    SameContent ((promised now (s.aliases.erase key)).map (·.path)) s.files staged.1.files ∧
      (∀ r ∈ s.revisions.entries, (r.2.variants.any fun v => v.2.path.stream = stream) = true →
        r.1 = managedTtsRevision env variants) ∧
      match s.revisions.get (managedTtsRevision env variants) with
      | some stored => intact env staged.1.files stored.variants = true
      | none =>
        Quality.source ∈ qualities →
          some (stageSource env now stream (applySynthesis now stream synthesis s)).2 ∉
            qualities.map (written stream)

/-- The call leaves what is promised as it is. -/
def ServesOn (s : Store) : Input → Prop
  | .synthesize now request requester synthesis =>
    NoneExpired now s ∧
      (Admitted env request requester s →
        if (s.aliases.get (effectiveKey env request)).any (answers env request) then
          (s.aliases.get (effectiveKey env request)).all (live now) = true
        else GeneratesApart env now request synthesis (cleanupExpired now s))
  | .deleteNamedAsset _ _ _ => True
  | .cleanupExpired now => NoneExpired now s
  | .cleanupOrphanedAudio now minAge => NoneOrphaned now minAge s
  | .cleanupUnreferencedRevisions _ _ => True

/-! ### The invariant -/

/-- Every alias is of a stored revision, and no two revisions share a file. -/
structure Kept (now : ℕ) (s : Store) : Prop where
  available : Available env now s
  stored : ∀ key asset, s.aliases.get key = some asset → asset.revision ≠ "" ∧
    ∃ r, s.revisions.get asset.revision = some r ∧ asset.variants = r.variants
  apart : ∀ a b ra rb, s.revisions.get a = some ra → s.revisions.get b = some rb → a ≠ b →
    ∀ va ∈ ra.variants, ∀ vb ∈ rb.variants, va.2.path ≠ vb.2.path

variable {env}

theorem mem_promised {now : ℕ} {aliases : Dict String Alias} {key : String} {asset : Alias}
    (hget : aliases.get key = some asset) (hlive : live now asset = true) {v : Quality × Variant}
    (hv : v ∈ asset.variants) : v.2 ∈ promised now aliases := by
  refine List.mem_flatMap.mpr ⟨asset, List.mem_filter.mpr ⟨?_, hlive⟩, List.mem_map_of_mem hv⟩
  exact List.mem_map.mpr ⟨(key, asset), Dict.mem_of_get hget, rfl⟩

theorem live_mono {now now' : ℕ} (h : now ≤ now') {asset : Alias} (hlive : live now' asset = true) :
    live now asset = true := by
  unfold live at *
  cases hexpires : asset.expiresAt with
  | none => rfl
  | some t =>
    simp only [hexpires, Option.all_some, decide_eq_true_eq] at hlive ⊢
    omega

theorem Kept.mono {now now' : ℕ} {s : Store} (h : Kept env now s) (hnow : now ≤ now') :
    Kept env now' s :=
  ⟨fun key asset hget hlive => h.available key asset hget (live_mono hnow hlive), h.stored, h.apart⟩

/-- The files that are promised are left. -/
theorem Available.of_files {now : ℕ} {s s' : Store} (h : Available env now s)
    (haliases : s'.aliases = s.aliases)
    (hfiles : ∀ v ∈ promised now s.aliases, ∀ file, s.files.get v.path = some file →
      s'.files.get v.path = some file) : Available env now s' := by
  intro key asset hget hlive
  rw [haliases] at hget
  have hintact := h key asset hget hlive
  refine List.all_eq_true.mpr fun v hv => ?_
  have hv' := List.all_eq_true.mp hintact v hv
  unfold Variant.intact at hv' ⊢
  cases hfile : s.files.get v.2.path with
  | none => simp [hfile] at hv'
  | some file =>
    rw [hfiles v.2 (mem_promised hget hlive hv) file hfile]
    rwa [hfile] at hv'

/-! ### The cleaners -/

theorem Kept.cleanupExpired {now : ℕ} {s : Store} (h : Kept env now s) (hnone : NoneExpired now s) :
    Kept env now (cleanupExpired now s) := by
  refine ⟨h.available.of_files rfl fun v hv file hfile => ?_, h.stored, h.apart⟩
  refine Dict.get_filter_of_get hfile ?_
  have hkept := hnone v hv
  cases hsidecar : s.sidecars.get v.path.stream with
  | none => simp [hsidecar]
  | some m => simpa [hsidecar] using hkept

theorem Kept.cleanupOrphanedAudio {now minAge : ℕ} {s : Store} (h : Kept env now s)
    (hnone : NoneOrphaned now minAge s) : Kept env now (cleanupOrphanedAudio now minAge s) := by
  refine ⟨h.available.of_files rfl fun v hv file hfile => ?_, h.stored, h.apart⟩
  refine Dict.get_filter_of_get hfile ?_
  have hkept := hnone v hv
  simpa [hfile] using hkept

theorem mem_referenced {s : Store} {key : String} {asset : Alias}
    (hget : s.aliases.get key = some asset) (hne : asset.revision ≠ "") :
    asset.revision ∈ referenced s := by
  refine List.mem_filter.mpr ⟨?_, by simpa using hne⟩
  refine List.mem_map.mpr ⟨asset, ?_, rfl⟩
  exact List.mem_map.mpr ⟨(key, asset), Dict.mem_of_get hget, rfl⟩

/-- A revision that no alias points to takes no file along that an alias lists. -/
theorem Kept.dropRevision {now : ℕ} {s : Store} (h : Kept env now s) {revision : String}
    (hfree : revision ∉ referenced s) : Kept env now (Tts.dropRevision s revision) := by
  have hne {key : String} {asset : Alias} (hget : s.aliases.get key = some asset) :
      asset.revision ≠ revision := fun heq =>
    hfree (heq ▸ mem_referenced hget (h.stored key asset hget).1)
  refine ⟨?_, ?_, ?_⟩
  · intro key asset hget hlive
    have hget : s.aliases.get key = some asset := hget
    obtain ⟨-, r, hr, hvariants⟩ := h.stored key asset hget
    refine List.all_eq_true.mpr fun v hv => ?_
    have hv' := List.all_eq_true.mp (h.available key asset hget hlive) v hv
    unfold Variant.intact at hv' ⊢
    cases hfile : s.files.get v.2.path with
    | none => simp [hfile] at hv'
    | some file =>
      have hleft : (Tts.dropRevision s revision).files.get v.2.path = some file := by
        refine Dict.get_filter_of_get hfile ?_
        cases hdropped : s.revisions.get revision with
        | none => simp
        | some dropped =>
          simp only [Option.map_some, Option.getD_some, Bool.not_eq_true', List.any_eq_false,
            decide_eq_true_eq]
          intro d hd
          exact (h.apart _ _ _ _ hr hdropped (hne hget) v (hvariants ▸ hv) d hd).symm
      rw [hleft]
      rwa [hfile] at hv'
  · intro key asset hget
    have hget : s.aliases.get key = some asset := hget
    obtain ⟨hnonempty, r, hr, hvariants⟩ := h.stored key asset hget
    refine ⟨hnonempty, r, ?_, hvariants⟩
    have herase := Dict.get_erase s.revisions revision asset.revision
    rw [if_neg (hne hget)] at herase
    exact herase.trans hr
  · intro a b ra rb ha hb hab
    have hleft {k : String} {r : Revision}
        (hk : (s.revisions.erase revision).get k = some r) : s.revisions.get k = some r := by
      rw [Dict.get_erase] at hk
      split at hk
      · cases hk
      · exact hk
    exact h.apart a b ra rb (hleft ha) (hleft hb) hab

theorem Kept.dropRevisions {now : ℕ} {revisions : List String} {s : Store} (h : Kept env now s)
    (hfree : ∀ revision ∈ revisions, revision ∉ referenced s) :
    Kept env now (revisions.foldl Tts.dropRevision s) := by
  induction revisions generalizing s with
  | nil => exact h
  | cons revision revisions ih =>
    rw [List.forall_mem_cons] at hfree
    exact ih (h.dropRevision hfree.1) hfree.2

theorem Kept.cleanupUnreferencedRevisions {now clock limit : ℕ} {s : Store} (h : Kept env now s) :
    Kept env now (cleanupUnreferencedRevisions clock limit s) := by
  refine h.dropRevisions fun revision hrevision => ?_
  have hfree := (List.mem_filter.mp (List.mem_of_mem_take hrevision)).2
  simp only [Bool.and_eq_true, decide_eq_true_eq] at hfree
  exact hfree.1

theorem Kept.eraseAlias {now : ℕ} {s : Store} (h : Kept env now s) (key : String) :
    Kept env now { s with aliases := s.aliases.erase key } := by
  have hleft {k : String} {asset : Alias} (hk : (s.aliases.erase key).get k = some asset) :
      s.aliases.get k = some asset := by
    rw [Dict.get_erase] at hk
    split at hk
    · cases hk
    · exact hk
  exact ⟨fun k asset hk => h.available k asset (hleft hk), fun k asset hk => h.stored k asset (hleft hk),
    h.apart⟩

/-! ### Generating -/

section generate

variable {now : ℕ} {stream assetKey : String} {source : AudioName} {audio : Bytes}

theorem audioPath_spec {s : Store} {name : AudioName} (h : audioPath stream s = some name) :
    name.stream = stream ∧ (s.files.get name).isSome = true := by
  obtain ⟨suffix, hsuffix, rfl⟩ := Option.map_eq_some_iff.mp h
  refine ⟨rfl, ?_⟩
  rcases Option.or_eq_some_iff.mp hsuffix with hfound | ⟨-, hfound⟩
  · exact List.find?_some (p := fun suffix => (s.files.get ⟨stream, suffix⟩).isSome) hfound
  · have hmem := List.mem_of_find?_eq_some hfound
    rw [(List.perm_insertionSort _ _).mem_iff] at hmem
    obtain ⟨name, hname, rfl⟩ := List.mem_map.mp hmem
    obtain ⟨hkey, hstream⟩ := List.mem_filter.mp hname
    rw [← of_decide_eq_true hstream]
    exact Dict.isSome_get_iff.mpr hkey

theorem sourcePath_spec {s : Store} {name : AudioName} (h : sourcePath stream s = some name) :
    name.stream = stream ∧ (s.files.get name).isSome = true := by
  unfold sourcePath at h
  split at h
  · next hraw =>
    obtain rfl := Option.some.inj h
    exact ⟨rfl, hraw⟩
  · exact audioPath_spec h

theorem stageSource_spec (s : Store) :
    (stageSource env now stream s).2.stream = stream ∧
      ((stageSource env now stream s).1.files.get (stageSource env now stream s).2).isSome = true ∧
      ∀ name : AudioName, name.stream ≠ stream →
        (stageSource env now stream s).1.files.get name = s.files.get name := by
  cases h : sourcePath stream s with
  | some source =>
    have hsource : stageSource env now stream s = (s, source) := by simp only [stageSource, h]
    rw [hsource]
    exact ⟨(sourcePath_spec h).1, (sourcePath_spec h).2, fun _ _ => rfl⟩
  | none =>
    simp only [stageSource, h]
    refine ⟨trivial, by simp, fun name hname => Dict.get_set_of_ne _ _ ?_⟩
    rintro rfl
    exact hname rfl

theorem prepareVariant_spec {quality : Quality} {files files' : Dict AudioName AudioFile}
    {v : Variant}
    (h : prepareVariant env now stream assetKey source audio quality files = .ok (files', v)) :
    v.path = (written stream quality).getD source ∧
      (∀ name, some name ≠ written stream quality → files'.get name = files.get name) ∧
      ((written stream quality).isSome = true → (files'.get v.path).isSome = true) ∧
      v.sizeBytes = (((files'.get v.path).map (·.content)).getD []).length ∧
      v.sha256 = env.sha256 (((files'.get v.path).map (·.content)).getD []) := by
  unfold prepareVariant at h
  unfold written
  cases hq : qualityVariant quality with
  | mk variant rate =>
    cases rate with
    | none =>
      simp only [hq, pure_bind] at h
      cases h
      exact ⟨rfl, fun _ _ => rfl, by simp, rfl, rfl⟩
    | some rate =>
      cases hpayload : env.normalizeWavSampleRate audio rate with
      | error e => simp [hq, hpayload] at h
      | ok payload =>
        simp only [hq, hpayload] at h
        cases h
        refine ⟨rfl, fun name hname => Dict.get_set_of_ne _ _ ?_, by simp, rfl, rfl⟩
        rintro rfl
        exact hname rfl

/-- Variants are written to the files of their qualities only. -/
theorem prepareManagedVariants_frame {name : AudioName} (qualities : List Quality)
    (files : Dict AudioName AudioFile) (h : some name ∉ qualities.map (written stream)) :
    (prepareManagedVariants env now stream assetKey source audio qualities files).1.get name =
      files.get name := by
  induction qualities generalizing files with
  | nil => rfl
  | cons quality qualities ih =>
    rw [List.map_cons, List.mem_cons, not_or] at h
    cases hprepared : prepareVariant env now stream assetKey source audio quality files with
    | error e => simp only [prepareManagedVariants, hprepared]
    | ok prepared =>
      obtain ⟨files', v⟩ := prepared
      simp only [prepareManagedVariants, hprepared]
      rw [ih files' h.2, (prepareVariant_spec hprepared).2.1 name h.1]

theorem written_stream {quality : Quality} {name : AudioName}
    (h : written stream quality = some name) : name.stream = stream := by
  obtain ⟨rate, -, rfl⟩ := Option.map_eq_some_iff.mp h
  rfl

theorem written_injective {a b : Quality} {name : AudioName} (ha : written stream a = some name)
    (hb : written stream b = some name) : a = b := by
  rw [← hb] at ha
  clear hb
  cases a <;> cases b <;> first | rfl | (exfalso; revert ha; unfold written; simp [qualityVariant])

/-- Every variant is of the stage, and intact once all are written, unless the source is written over
by a variant. -/
theorem prepareManagedVariants_intact {qualities : List Quality}
    {files : Dict AudioName AudioFile} {variants : Variants} (hnodup : qualities.Nodup)
    (hsource : (files.get source).isSome = true) (hstream : source.stream = stream)
    (hapart : .source ∈ qualities → some source ∉ qualities.map (written stream))
    (h : (prepareManagedVariants env now stream assetKey source audio qualities files).2 =
      .ok variants) :
    ∀ v ∈ variants, v.2.path.stream = stream ∧
      v.2.intact env
        (prepareManagedVariants env now stream assetKey source audio qualities files).1 = true := by
  induction qualities generalizing files variants with
  | nil =>
    cases h
    simp
  | cons quality qualities ih =>
    cases hprepared : prepareVariant env now stream assetKey source audio quality files with
    | error e => simp [prepareManagedVariants, hprepared] at h
    | ok prepared =>
      obtain ⟨files', first⟩ := prepared
      simp only [prepareManagedVariants, hprepared] at h ⊢
      obtain ⟨hpath, hframe, hthere, hsize, hdigest⟩ := prepareVariant_spec hprepared
      rw [List.nodup_cons] at hnodup
      have hsource' : (files'.get source).isSome = true := by
        by_cases hwritten : some source = written stream quality
        · rw [← hwritten] at hpath hthere
          rw [hpath] at hthere
          exact hthere rfl
        · rwa [hframe source hwritten]
      have hfirst : first.path.stream = stream ∧ (files'.get first.path).isSome = true ∧
          some first.path ∉ qualities.map (written stream) := by
        rw [hpath]
        cases hwritten : written stream quality with
        | some name =>
          refine ⟨written_stream hwritten, ?_, ?_⟩
          · rw [hpath, hwritten] at hthere
            exact hthere rfl
          · intro hmem
            obtain ⟨other, hother, heq⟩ := List.mem_map.mp hmem
            exact hnodup.1 (written_injective hwritten heq ▸ hother)
        | none =>
          have hquality : quality = .source := by
            cases quality <;> simp [written, qualityVariant] at hwritten ⊢
          refine ⟨hstream, hsource', fun hmem => ?_⟩
          exact hapart (by simp [hquality]) (List.mem_cons_of_mem _ hmem)
      obtain ⟨variants', hvariants', rfl⟩ : ∃ variants', (prepareManagedVariants env now stream
          assetKey source audio qualities files').2 = .ok variants' ∧
          (quality, first) :: variants' = variants := by
        cases hrest : (prepareManagedVariants env now stream assetKey source audio qualities
          files').2 with
        | error e => simp [hrest, Except.map] at h
        | ok variants' => exact ⟨variants', rfl, by simpa [hrest, Except.map] using h⟩
      rw [List.forall_mem_cons]
      constructor
      · refine ⟨hfirst.1, ?_⟩
        obtain ⟨file, hfile⟩ := Option.isSome_iff_exists.mp hfirst.2.1
        unfold Variant.intact
        rw [prepareManagedVariants_frame qualities files' hfirst.2.2, hfile]
        simp only [hfile, Option.map_some, Option.getD_some] at hsize hdigest
        simp [hsize, hdigest]
      · exact ih hnodup.2 hsource' (fun hmem hwritten =>
          hapart (List.mem_cons_of_mem _ hmem) (List.mem_cons_of_mem _ hwritten)) hvariants'

variable {qualities : List Quality} {synthesis : Synthesis} {s : Store}

/-- Variants that a stage gives are of its stream, and intact. -/
theorem stage_intact {variants : Variants} (hnodup : qualities.Nodup)
    (hapart : .source ∈ qualities →
      some (stageSource env now stream (applySynthesis now stream synthesis s)).2 ∉
        qualities.map (written stream))
    (h : (stage env now stream assetKey qualities synthesis s).2 = .ok variants) :
    ∀ v ∈ variants, v.2.path.stream = stream ∧
      v.2.intact env (stage env now stream assetKey qualities synthesis s).1.files = true := by
  have herror := stage_error h
  simp only [stage, herror, stageVariants] at h ⊢
  obtain ⟨hstream, hthere, -⟩ :=
    @stageSource_spec env now stream (applySynthesis now stream synthesis s)
  refine prepareManagedVariants_intact hnodup hthere hstream hapart ?_
  revert h
  generalize (prepareManagedVariants env now stream assetKey _ _ qualities _).2 = outcome
  cases outcome with
  | error e => simp [Except.mapError]
  | ok variants' => simp [Except.mapError]

end generate

theorem nodup_eraseDups (qualities : List Quality) : qualities.eraseDups.Nodup := by
  induction hlength : qualities.length using Nat.strong_induction_on generalizing qualities with
  | _ n ih =>
    cases qualities with
    | nil => simp
    | cons quality qualities =>
      rw [List.eraseDups_cons, List.nodup_cons]
      refine ⟨by simp [List.mem_eraseDups], ih _ ?_ _ rfl⟩
      have hshorter := List.length_filter_le (fun b => !b == quality) qualities
      rw [List.length_cons] at hlength
      omega

theorem Variant.intact_congr {files files' : Dict AudioName AudioFile} {v : Variant}
    (h : (files'.get v.path).map (·.content) = (files.get v.path).map (·.content)) :
    v.intact env files' = v.intact env files := by
  unfold Variant.intact
  cases hfile : files.get v.path <;> cases hfile' : files'.get v.path <;>
    simp_all

theorem managedTtsRevision_ne (variants : Variants) : managedTtsRevision env variants ≠ "" := by
  intro h
  have hlist := congrArg String.toList h
  simp [managedTtsRevision] at hlist

section store

variable {now : ℕ} {request : TtsSynthesizeRequest} {requester : Option String}
  {synthesis : Synthesis} {s : Store}

/-- The revision that is stored for variants is the one of their content, with them or with those that
it was stored with before. -/
theorem storeRevision_cases {variants : Variants} {s' : Store} {revision : String}
    {metadata : Revision}
    (h : storeRevision env now request synthesis variants s = (s', revision, metadata)) :
    revision = managedTtsRevision env variants ∧ s'.files = s.files ∧ s'.aliases = s.aliases ∧
      (s.revisions.get revision = some metadata ∧ s'.revisions = s.revisions ∨
        s.revisions.get revision = none ∧ s'.revisions = s.revisions.set revision metadata ∧
          metadata.variants = variants) := by
  cases hget : s.revisions.get (managedTtsRevision env variants) with
  | some stored =>
    simp only [storeRevision, hget, Prod.mk.injEq] at h
    obtain ⟨rfl, rfl, rfl⟩ := h
    exact ⟨rfl, rfl, rfl, .inl ⟨hget, rfl⟩⟩
  | none =>
    simp only [storeRevision, hget, Prod.mk.injEq] at h
    obtain ⟨rfl, rfl, rfl⟩ := h
    exact ⟨rfl, rfl, rfl, .inr ⟨hget, rfl, rfl⟩⟩

/-- An alias of a stored revision takes the place of another one. -/
theorem Kept.setAlias {s s' : Store} (h : Kept env now s) {key : String} {asset : Alias}
    {metadata : Revision} (haliases : s'.aliases = s.aliases.set key asset)
    (hsame : SameContent ((promised now (s.aliases.erase key)).map (·.path)) s.files s'.files)
    (hnonempty : asset.revision ≠ "") (hvariants : asset.variants = metadata.variants)
    (hstored : s'.revisions.get asset.revision = some metadata)
    (hintact : intact env s'.files metadata.variants = true)
    (hrevisions : s'.revisions = s.revisions ∨
      s.revisions.get asset.revision = none ∧
        s'.revisions = s.revisions.set asset.revision metadata ∧
        ∀ r ∈ s.revisions.entries, ∀ v ∈ r.2.variants, ∀ w ∈ metadata.variants,
          v.2.path ≠ w.2.path) : Kept env now s' := by
  have hleft {k : String} {a : Alias} (hne : k ≠ key) (hget : s'.aliases.get k = some a) :
      s.aliases.get k = some a := by
    rwa [haliases, Dict.get_set_of_ne _ _ hne] at hget
  have hself {a : Alias} (hget : s'.aliases.get key = some a) : a = asset := by
    rw [haliases, Dict.get_set_self] at hget
    exact (Option.some.inj hget).symm
  refine ⟨?_, ?_, ?_⟩
  · intro k a hget hlive
    by_cases hk : k = key
    · subst hk
      rw [hself hget, hvariants]
      exact hintact
    · have hget := hleft hk hget
      have hget' : (s.aliases.erase key).get k = some a := by rwa [Dict.get_erase, if_neg hk]
      refine List.all_eq_true.mpr fun v hv => ?_
      rw [Variant.intact_congr
        (hsame v.2.path (List.mem_map_of_mem (mem_promised hget' hlive hv)))]
      exact List.all_eq_true.mp (h.available k a hget hlive) v hv
  · intro k a hget
    by_cases hk : k = key
    · subst hk
      rw [hself hget]
      exact ⟨hnonempty, metadata, hstored, hvariants⟩
    · obtain ⟨hne, r, hr, hsame⟩ := h.stored k a (hleft hk hget)
      refine ⟨hne, r, ?_, hsame⟩
      obtain hrevisions | ⟨hnew, hrevisions, -⟩ := hrevisions
      · rwa [hrevisions]
      · rw [hrevisions, Dict.get_set_of_ne _ _ fun heq => ?_]
        · exact hr
        · rw [heq, hnew] at hr
          cases hr
  · obtain hrevisions | ⟨hnew, hrevisions, hfree⟩ := hrevisions
    · rw [hrevisions]
      exact h.apart
    · intro a b ra rb ha hb hab va hva vb hvb
      rw [hrevisions, Dict.get_set] at ha hb
      split at ha
      · next heq =>
        obtain rfl := Option.some.inj ha
        rw [if_neg fun hb => hab (heq.trans hb.symm)] at hb
        exact (hfree (b, rb) (Dict.mem_of_get hb) vb hvb va hva).symm
      · split at hb
        · next heq =>
          obtain rfl := Option.some.inj hb
          exact hfree (a, ra) (Dict.mem_of_get ha) va hva vb hvb
        · exact h.apart a b ra rb ha hb hab va hva vb hvb

/-- The invariant is about the content of what is promised. -/
theorem Kept.of_content {s s' : Store} (h : Kept env now s) (haliases : s'.aliases = s.aliases)
    (hrevisions : s'.revisions = s.revisions)
    (hsame : SameContent ((promised now s.aliases).map (·.path)) s.files s'.files) :
    Kept env now s' := by
  refine ⟨?_, by rw [haliases, hrevisions]; exact h.stored, by rw [hrevisions]; exact h.apart⟩
  intro key asset hget hlive
  rw [haliases] at hget
  refine List.all_eq_true.mpr fun v hv => ?_
  rw [Variant.intact_congr (hsame v.2.path (List.mem_map_of_mem (mem_promised hget hlive hv)))]
  exact List.all_eq_true.mp (h.available key asset hget hlive) v hv

theorem aliasMetadata_of (now : ℕ) (request : TtsSynthesizeRequest) (requester : Option String)
    (revision : String) (metadata : Revision) :
    (aliasMetadata env now request requester revision metadata).assetKey = effectiveKey env request ∧
      (aliasMetadata env now request requester revision metadata).revision = revision ∧
      (aliasMetadata env now request requester revision metadata).variants = metadata.variants := by
  simp only [aliasMetadata, and_self]

/-- **Generating audio keeps the invariant**, if it is apart from what there is. -/
theorem Kept.generate (h : Kept env now s) (hapart : GeneratesApart env now request synthesis s) :
    Kept env now (generate env now request requester synthesis s).1 := by
  obtain ⟨haliases, hrevisions⟩ := @stage_store env now (stagingId env now request)
    (effectiveKey env request) (qualitiesOf request.delivery) synthesis s
  have hintact {variants : Variants} := @stage_intact env now (stagingId env now request)
    (effectiveKey env request) (qualitiesOf request.delivery) synthesis s variants
    (nodup_eraseDups _)
  have hcases := @generate_cases env now request requester synthesis s
  unfold GeneratesApart at hapart
  simp only at hapart
  generalize stage env now (stagingId env now request) (effectiveKey env request)
    (qualitiesOf request.delivery) synthesis s = staged at *
  obtain ⟨e, herror, hfinal, -⟩ | ⟨variants, hok, s', revision, metadata, hstored, hfinal, -⟩ :=
    hcases
  · rw [herror] at hapart
    rw [hfinal]
    exact h.of_content haliases hrevisions hapart
  · rw [hok] at hapart
    obtain ⟨hsame, halone, hthere⟩ := hapart
    obtain ⟨hrevision, hfiles', haliases', hmetadata⟩ := storeRevision_cases hstored
    rw [haliases] at haliases'
    rw [hrevisions] at hmetadata
    have hnonempty : revision ≠ "" := hrevision ▸ managedTtsRevision_ne variants
    rw [← hrevision] at halone hthere
    rw [hfinal]
    obtain ⟨hassetKey, hassetRevision, hassetVariants⟩ :=
      @aliasMetadata_of env now request requester revision metadata
    generalize aliasMetadata env now request requester revision metadata = asset at *
    generalize effectiveKey env request = key at *
    rw [← hassetRevision] at hnonempty halone hthere hmetadata
    apply Kept.cleanupUnreferencedRevisions
    have hset : s'.aliases.set asset.assetKey asset = s.aliases.set key asset := by
      rw [haliases', hassetKey]
    have hsame' : SameContent ((promised now (s.aliases.erase key)).map (·.path)) s.files
        s'.files := by rwa [hfiles']
    rcases hmetadata with ⟨hget, hrevisions'⟩ | ⟨hnew, hrevisions', hvariants⟩
    · rw [hget] at hthere
      refine h.setAlias hset hsame' hnonempty hassetVariants ?_ ?_ (.inl hrevisions')
      · exact (congrArg (Dict.get · asset.revision) hrevisions').trans hget
      · rwa [hfiles']
    · rw [hnew] at hthere
      have hgood := hintact hthere hok
      refine h.setAlias hset hsame' hnonempty hassetVariants ?_ ?_ (.inr ⟨hnew, hrevisions', ?_⟩)
      · exact (congrArg (Dict.get · asset.revision) hrevisions').trans (Dict.get_set_self _ _ _)
      · rw [hfiles', hvariants]
        exact List.all_eq_true.mpr fun v hv => (hgood v hv).2
      · intro r hr v hv w hw heq
        have hstream := (hgood w (hvariants ▸ hw)).1
        have hr' := halone r hr (List.any_eq_true.mpr ⟨v, hv, by simpa [heq] using hstream⟩)
        have hkey : asset.revision ∈ s.revisions.keys := List.mem_map.mpr ⟨r, hr, hr'⟩
        rw [← Dict.isSome_get_iff, hnew] at hkey
        cases hkey

end store

/-! ### Runs -/

theorem any_answers_eq_false {o : Option Alias} {p : Alias → Bool} (h : ∀ a ∈ o, p a = false) :
    o.any p = false := by
  cases o with
  | none => rfl
  | some a => exact h a rfl

/-- **The step lemma.** -/
theorem Kept.step {s : Store} {input : Input} (h : Kept env input.now s)
    (hok : ServesOn env s input) : Kept env input.now (step env s input) := by
  cases input with
  | synthesize now request requester synthesis =>
    rw [step_synthesize]
    have hclean := Kept.cleanupExpired h hok.1
    obtain ⟨hsame, -⟩ | ⟨hadmitted, hanswers, heq⟩ :=
      @synthesizeManaged_cases env now request requester synthesis s
    · rw [hsame]
      exact hclean
    · have hapart := hok.2 hadmitted
      rw [any_answers_eq_false hanswers] at hapart
      rw [heq]
      exact hclean.generate hapart
  | deleteNamedAsset now assetKey requester =>
    rw [step_deleteNamedAsset]
    unfold deleteNamedAsset
    cases safeTtsAssetKey env (some assetKey) with
    | none => exact h
    | some key =>
      simp only
      cases s.aliases.get key with
      | none => exact h
      | some asset =>
        simp only
        split
        · exact h
        · exact (h.eraseAlias key).cleanupUnreferencedRevisions
  | cleanupExpired now => exact Kept.cleanupExpired h hok
  | cleanupOrphanedAudio now minAge => exact Kept.cleanupOrphanedAudio h hok
  | cleanupUnreferencedRevisions now limit => exact Kept.cleanupUnreferencedRevisions h

/-- **The run lemma.** -/
theorem Kept.run {inputs : List Input} {clock : ℕ} {s : Store} (h : Kept env clock s)
    (htimes : (inputs.map Input.now).Pairwise (· ≤ ·)) (hclock : ∀ input ∈ inputs, clock ≤ input.now)
    (hok : AllSteps (Tts.step env) (ServesOn env) s inputs) {now : ℕ} (hnow : clock ≤ now)
    (hlast : ∀ input ∈ inputs, input.now ≤ now) :
    Kept env now (Library.run (Tts.step env) s inputs) := by
  induction inputs generalizing s clock with
  | nil => exact h.mono hnow
  | cons input inputs ih =>
    rw [List.map_cons, List.pairwise_cons] at htimes
    rw [List.forall_mem_cons] at hclock hlast
    exact ih ((h.mono hclock.1).step hok.1) htimes.2
      (fun later hlater => htimes.1 later.now (List.mem_map_of_mem hlater)) hok.2 hlast.1 hlast.2

/-- An alias that has expired answers no request that meets the condition. -/
theorem expired_not_answered {now : ℕ} {request : TtsSynthesizeRequest}
    {requester : Option String} {synthesis : Synthesis} {s : Store}
    (hok : ServesOn env s (.synthesize now request requester synthesis)) {asset : Alias}
    (hget : s.aliases.get (effectiveKey env request) = some asset)
    (hexpired : live now asset = false) :
    (synthesizeManaged env now request requester synthesis s).2.failed = true ∨
      (synthesizeManaged env now request requester synthesis s).2.cacheHit = false := by
  obtain ⟨-, hfailed | ⟨other, hother, hadmitted, hanswers, -⟩⟩ | ⟨-, -, heq⟩ :=
    @synthesizeManaged_cases env now request requester synthesis s
  · exact .inl hfailed
  · rw [hget] at hother
    obtain rfl := Option.some.inj hother
    have hlive := hok.2 hadmitted
    rw [hget, Option.any_some, if_pos hanswers, Option.all_some, hexpired] at hlive
    cases hlive
  · rw [heq]
    obtain ⟨-, -, -, hfailed⟩ | ⟨-, -, -, -, -, -, -, hmiss⟩ :=
      @generate_cases env now request requester synthesis (Tts.cleanupExpired now s)
    · exact .inl hfailed
    · exact .inr hmiss

/-- What is available is served. -/
theorem Available.served {now : ℕ} {s : Store} (h : Available env now s) {key : String}
    {asset : Alias} (hkey : safeTtsAssetKey env (some key) = some key)
    (hget : s.aliases.get key = some asset) (hlive : live now asset = true) {quality : Quality}
    {v : Variant} (hv : asset.variants.lookup quality = some v) :
    namedAssetAudioPath env key quality s = some (v.path, v) := by
  have hmem : (quality, v) ∈ asset.variants := Dict.mem_of_get (d := ⟨asset.variants⟩) hv
  have hintact := List.all_eq_true.mp (h key asset hget hlive) (quality, v) hmem
  unfold Variant.intact at hintact
  have hthere : (s.files.get v.path).isSome = true := by
    cases hfile : s.files.get v.path with
    | none => simp [hfile] at hintact
    | some file => rfl
  unfold namedAssetAudioPath
  rw [hkey]
  simp only [Option.bind_eq_bind, Option.bind_some, hget, hv, if_pos hthere]

theorem kept_empty (clock : ℕ) : Kept env clock {} := by
  refine ⟨?_, ?_, ?_⟩
  · intro key asset hget
    cases hget
  · intro key asset hget
    cases hget
  · intro a b ra rb ha
    cases ha

end env

instance (env : Env) (now : ℕ) (request : TtsSynthesizeRequest) (synthesis : Synthesis)
    (s : Store) : Decidable (GeneratesApart env now request synthesis s) := by
  unfold GeneratesApart SameContent
  dsimp only
  split
  · infer_instance
  · split <;> infer_instance

instance (env : Env) (s : Store) (input : Input) : Decidable (ServesOn env s input) := by
  cases input <;> unfold ServesOn NoneExpired NoneOrphaned <;> infer_instance

/-- The asset of the kitchen, in a test without a speech engine. -/
def chime (mode : DeliveryMode) : TtsSynthesizeRequest where
  text := "Ding"
  delivery := { mode := mode, assetKey := some "kitchen/chime" }

/-- The asset is made, and cleaners pass. -/
def passingCleaners : List Input :=
  [.synthesize 0 (chime .persistent) (some "kitchen") {}, .cleanupOrphanedAudio 60000000 600,
    .cleanupExpired 120000000, .cleanupUnreferencedRevisions 180000000 10]

end HexeVoice.Tts
