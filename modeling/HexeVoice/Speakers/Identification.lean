import HexeVoice.Library.Rounding
import Mathlib

/-!
# Identifying a speaker

`_identify_embedding` and `_rank_profiles` of `speaker_id/service.py`, with `score_embedding_pair` and
`cosine_similarity` of `speaker_id/adapters.py`.

## The model

Numbers are of any ordered field with a floor, and the square root is a parameter: nothing is asked of
it. An entry of a profile's embeddings that is refused, as it is no object or `_embedding_from_payload`
raises, is `none`. What is copied from the profile to the answer besides its ids is left out.

## What is proved

**`identification_iff`**: the order of the profiles changes neither the status nor the identified speaker,
and a rival below the best never makes an unknown speaker identified, exactly if no two speakers share a
best score that is accepted without a margin, and no negative rival makes the margin of a lone profile
large enough.
-/

set_option linter.unusedSectionVars false

namespace HexeVoice.Speakers.Identification

open HexeVoice.Library

/-! ### Scores -/

section Scores

variable {K : Type} [Field K] [LinearOrder K] [IsStrictOrderedRing K] [FloorRing K]

/-- `SpeakerEmbedding`, as far as it is compared. -/
structure SpeakerEmbedding (K : Type) where
  providerId : String
  values : List K

/-- A stored profile. -/
structure Profile (K : Type) where
  profileId : String
  speakerPublicId : String
  providerId : Option String
  /-- The embeddings, where one is refused `none`. -/
  embeddings : List (Option (SpeakerEmbedding K))

structure SpeakerThresholds (K : Type) where
  identifyMinConfidence : K
  identifyMinMargin : K

/-- A profile with its score. -/
structure RankedProfile (K : Type) where
  profileId : String
  speakerPublicId : String
  score : K

variable (sqrt : K → K)

/-- `math.sqrt(sum(value * value for value in values))`. -/
def norm (values : List K) : K := sqrt (values.map fun value => value * value).sum

/-- `cosine_similarity`, of vectors of the same length. -/
def cosineSimilarity (left right : List K) : K :=
  if norm sqrt left ≤ 0 ∨ norm sqrt right ≤ 0 then 0
  else (List.zipWith (· * ·) left right).sum / (norm sqrt left * norm sqrt right)

/-- The score of `score_embedding_pair`, unless it raises. -/
def scoreEmbeddingPair (reference candidate : SpeakerEmbedding K) : Option K :=
  if reference.providerId ≠ candidate.providerId then none
  else if reference.values.length ≠ candidate.values.length then none
  else some (roundDigits 6 (cosineSimilarity sqrt reference.values candidate.values))

/-- The scores of a profile that are not refused. -/
def scores (candidate : SpeakerEmbedding K) (profile : Profile K) : List K :=
  profile.embeddings.filterMap fun embedding =>
    embedding.bind fun reference => scoreEmbeddingPair sqrt reference candidate

/-- The profile with its score, if it has one. -/
def ranked? (candidate : SpeakerEmbedding K) (profile : Profile K) : Option (RankedProfile K) :=
  if profile.providerId ≠ some candidate.providerId then none
  else
    match scores sqrt candidate profile with
    | [] => none
    | first :: more =>
      some ⟨profile.profileId, profile.speakerPublicId, roundDigits 6 (more.foldl max first)⟩

/-- `sorted(ranked, key=lambda item: float(item["score"]), reverse=True)`, which is stable. -/
def sortRanked (ranked : List (RankedProfile K)) : List (RankedProfile K) :=
  ranked.insertionSort fun a b => b.score ≤ a.score

def rankProfiles (candidate : SpeakerEmbedding K) (profiles : List (Profile K)) :
    List (RankedProfile K) :=
  sortRanked (profiles.filterMap (ranked? sqrt candidate))

/-! ### The decision -/

inductive Status where
  | unknown
  | identified
  deriving DecidableEq

/-- What `_identify_embedding` returns. -/
structure Decision (K : Type) where
  status : Status
  /-- The best profile, and its margin. -/
  best : Option (RankedProfile K × K)
  reason : Option String
  candidates : List (RankedProfile K)

/-- `ranked[1]["score"] if len(ranked) > 1 else 0.0`. -/
def secondScore (others : List (RankedProfile K)) : K := (others.head?.map (·.score)).getD 0

/-- `_identify_embedding`, of the profiles in their order. -/
def decideRanked (thresholds : SpeakerThresholds K) (ranked : List (RankedProfile K)) : Decision K :=
  match ranked with
  | [] => ⟨.unknown, none, some "no_profiles", []⟩
  | best :: others =>
    let margin := roundDigits 6 (best.score - secondScore others)
    if thresholds.identifyMinConfidence ≤ best.score ∧ thresholds.identifyMinMargin ≤ margin then
      ⟨.identified, some (best, margin), none, ranked.take 3⟩
    else
      ⟨.unknown, some (best, margin),
        some (if best.score < thresholds.identifyMinConfidence then "low_confidence" else "low_margin"),
        ranked.take 3⟩

def identifyEmbedding (candidate : SpeakerEmbedding K) (profiles : List (Profile K))
    (thresholds : SpeakerThresholds K) : Decision K :=
  decideRanked thresholds (rankProfiles sqrt candidate profiles)

/-- The ids of the identified speaker. -/
def Decision.speaker (result : Decision K) : Option (String × String) :=
  match result.status with
  | .identified => result.best.map fun best => (best.1.profileId, best.1.speakerPublicId)
  | .unknown => none

/-! ### What is asked of it -/

variable (candidate : SpeakerEmbedding K) (profiles : List (Profile K))
  (thresholds : SpeakerThresholds K)

/-- The score of a profile, if it has one. -/
def scoreOf (profile : Profile K) : Option K := (ranked? sqrt candidate profile).map (·.score)

/-- The order of the profiles does not matter. -/
def OrderIndependent : Prop :=
  ∀ others, others.Perm profiles →
    (identifyEmbedding sqrt candidate others thresholds).status =
        (identifyEmbedding sqrt candidate profiles thresholds).status ∧
      (identifyEmbedding sqrt candidate others thresholds).speaker =
        (identifyEmbedding sqrt candidate profiles thresholds).speaker

/-- The profile has the best score. -/
def IsBest (profile : Profile K) (score : K) : Prop :=
  profile ∈ profiles ∧ scoreOf sqrt candidate profile = some score ∧
    ∀ other ∈ profiles, ∀ otherScore, scoreOf sqrt candidate other = some otherScore →
      otherScore ≤ score

/-- A rival below the best, put anywhere, leaves an unknown speaker unknown. -/
def RivalKeepsUnknown : Prop :=
  ∀ (before after : List (Profile K)) (rival best : Profile K) (rivalScore score : K),
    profiles = before ++ after → IsBest sqrt candidate profiles best score →
    scoreOf sqrt candidate rival = some rivalScore → rivalScore < score →
    (identifyEmbedding sqrt candidate profiles thresholds).status = .unknown →
    (identifyEmbedding sqrt candidate (before ++ rival :: after) thresholds).status = .unknown

/-- Profiles that share a best score that is accepted without a margin are of one speaker. -/
def NoSharedBest : Prop :=
  thresholds.identifyMinMargin ≤ 0 → ∀ best other score,
    thresholds.identifyMinConfidence ≤ score → IsBest sqrt candidate profiles best score →
    IsBest sqrt candidate profiles other score →
    (best.profileId, best.speakerPublicId) = (other.profileId, other.speakerPublicId)

/-- Where one profile has a score, and its own is not margin enough, no rival makes it enough. -/
def NoNegativeRival : Prop :=
  ∀ score rivalScore rival, profiles.filterMap (scoreOf sqrt candidate) = [score] →
    scoreOf sqrt candidate rival = some rivalScore → rivalScore < score →
    thresholds.identifyMinConfidence ≤ score → score < thresholds.identifyMinMargin →
    score - rivalScore < thresholds.identifyMinMargin

/-! ### Ranking -/

section Ranking

variable {sqrt candidate profiles thresholds}

theorem sortRanked_perm (ranked : List (RankedProfile K)) : (sortRanked ranked).Perm ranked :=
  List.perm_insertionSort _ _

/-- The scores go down. -/
theorem pairwise_sortRanked (ranked : List (RankedProfile K)) :
    (sortRanked ranked).Pairwise fun a b => b.score ≤ a.score :=
  have : Std.Total fun a b : RankedProfile K => b.score ≤ a.score := ⟨fun a b => le_total b.score a.score⟩
  have : IsTrans (RankedProfile K) fun a b => b.score ≤ a.score := ⟨fun _ _ _ hab hbc => hbc.trans hab⟩
  List.pairwise_insertionSort _ _

theorem falling_scores (ranked : List (RankedProfile K)) :
    ((sortRanked ranked).map (·.score)).Pairwise (· ≥ ·) :=
  List.pairwise_map.mpr (pairwise_sortRanked ranked)

/-- The scores in order do not depend on the order of the profiles. -/
theorem scores_sortRanked {ranked others : List (RankedProfile K)} (h : ranked.Perm others) :
    (sortRanked ranked).map (·.score) = (sortRanked others).map (·.score) := by
  have hperm : (sortRanked ranked).Perm (sortRanked others) :=
    (sortRanked_perm ranked).trans (h.trans (sortRanked_perm others).symm)
  exact List.Perm.eq_of_pairwise' (falling_scores ranked) (falling_scores others) (hperm.map _)

/-- The first of the best scores comes first. -/
theorem sortRanked_cons {best : RankedProfile K} {others : List (RankedProfile K)}
    (h : ∀ other ∈ others, other.score ≤ best.score) :
    sortRanked (best :: others) = best :: sortRanked others := by
  have hinsert (l : List (RankedProfile K)) (hl : ∀ other ∈ l, other.score ≤ best.score) :
      l.orderedInsert (fun a b => b.score ≤ a.score) best = best :: l := by
    cases l with
    | nil => rfl
    | cons other l => exact List.orderedInsert_cons_of_le _ _ (hl other (by simp))
  exact hinsert _ fun other hother => h other ((sortRanked_perm others).subset hother)

theorem ranked?_eq_some {profile : Profile K} {ranked : RankedProfile K}
    (h : ranked? sqrt candidate profile = some ranked) :
    ranked.profileId = profile.profileId ∧ ranked.speakerPublicId = profile.speakerPublicId ∧
      HasDigits 6 ranked.score := by
  simp only [ranked?] at h
  split at h
  · cases h
  · split at h
    · cases h
    · cases h
      exact ⟨rfl, rfl, hasDigits_roundDigits _ _⟩

/-- All scores have six decimals. -/
theorem hasDigits_of_mem {ranked : RankedProfile K}
    (h : ranked ∈ rankProfiles sqrt candidate profiles) : HasDigits 6 ranked.score := by
  obtain ⟨profile, -, hprofile⟩ := List.mem_filterMap.mp ((sortRanked_perm _).subset h)
  exact (ranked?_eq_some hprofile).2.2

end Ranking

/-! ### Accepting -/

/-- The best score is high enough, and far enough from the second. -/
def Accepts (thresholds : SpeakerThresholds K) : List K → Prop
  | [] => False
  | best :: others => thresholds.identifyMinConfidence ≤ best ∧
      thresholds.identifyMinMargin ≤ best - others.headD 0

variable {sqrt candidate profiles thresholds}

theorem decideRanked_cons {best : RankedProfile K} {others : List (RankedProfile K)}
    (h : ∀ ranked ∈ best :: others, HasDigits 6 ranked.score) :
    (decideRanked thresholds (best :: others)).status = .identified ↔
      Accepts thresholds ((best :: others).map (·.score)) := by
  have hsecond : HasDigits 6 (secondScore others) := by
    cases others with
    | nil => exact hasDigits_zero 6
    | cons second others => exact h second (by simp)
  have hmargin := ((h best (by simp)).sub hsecond).round
  have hhead : secondScore others = (others.map (·.score)).headD 0 := by
    cases others <;> rfl
  simp only [decideRanked, Accepts, List.map_cons]
  rw [hmargin, hhead]
  split
  next haccepted => simpa using haccepted
  next hrefused => simpa using hrefused

/-- **The status depends on the scores alone.** -/
theorem identified_iff :
    (identifyEmbedding sqrt candidate profiles thresholds).status = .identified ↔
      Accepts thresholds ((rankProfiles sqrt candidate profiles).map (·.score)) := by
  rw [identifyEmbedding]
  cases hranked : rankProfiles sqrt candidate profiles with
  | nil => simp [decideRanked, Accepts]
  | cons best others =>
    exact decideRanked_cons fun ranked hmem => hasDigits_of_mem (hranked ▸ hmem)

theorem speaker_of_identified {best : RankedProfile K} {others : List (RankedProfile K)}
    (hranked : rankProfiles sqrt candidate profiles = best :: others)
    (h : (identifyEmbedding sqrt candidate profiles thresholds).status = .identified) :
    (identifyEmbedding sqrt candidate profiles thresholds).speaker =
      some (best.profileId, best.speakerPublicId) := by
  rw [identifyEmbedding, hranked] at h ⊢
  simp only [decideRanked] at h ⊢
  split at h
  next haccepted => simp [Decision.speaker, haccepted]
  next => cases h

theorem speaker_of_unknown (h : (identifyEmbedding sqrt candidate profiles thresholds).status = .unknown) :
    (identifyEmbedding sqrt candidate profiles thresholds).speaker = none := by
  simp [Decision.speaker, h]

/-! ### Other orders -/

/-- A profile with the best score is ranked with it, above all others. -/
theorem IsBest.exists_ranked {best : Profile K} {score : K}
    (h : IsBest sqrt candidate profiles best score) :
    ∃ ranked, ranked? sqrt candidate best = some ranked ∧ ranked.score = score ∧
      (ranked.profileId, ranked.speakerPublicId) = (best.profileId, best.speakerPublicId) ∧
      ranked ∈ profiles.filterMap (ranked? sqrt candidate) ∧
      ∀ other ∈ profiles.filterMap (ranked? sqrt candidate), other.score ≤ ranked.score := by
  obtain ⟨hmem, hscore, htop⟩ := h
  obtain ⟨ranked, hranked, rfl⟩ := Option.map_eq_some_iff.mp hscore
  obtain ⟨hid, hpublic, -⟩ := ranked?_eq_some hranked
  refine ⟨ranked, hranked, rfl, by rw [hid, hpublic], List.mem_filterMap.mpr ⟨best, hmem, hranked⟩, ?_⟩
  intro other hother
  obtain ⟨profile, hprofile, hsome⟩ := List.mem_filterMap.mp hother
  exact htop profile hprofile other.score (by simp [scoreOf, hsome])

/-- What is ranked first is a profile with the best score. -/
theorem isBest_of_first {best : RankedProfile K} {others : List (RankedProfile K)}
    (h : rankProfiles sqrt candidate profiles = best :: others) :
    ∃ profile, IsBest sqrt candidate profiles profile best.score ∧
      (best.profileId, best.speakerPublicId) = (profile.profileId, profile.speakerPublicId) := by
  have hperm := sortRanked_perm (profiles.filterMap (ranked? sqrt candidate))
  rw [← rankProfiles, h] at hperm
  obtain ⟨profile, hmem, hprofile⟩ := List.mem_filterMap.mp (hperm.subset List.mem_cons_self)
  obtain ⟨hid, hpublic, -⟩ := ranked?_eq_some hprofile
  refine ⟨profile, ⟨hmem, by simp [scoreOf, hprofile], ?_⟩, by rw [hid, hpublic]⟩
  intro other hother score hscore
  obtain ⟨ranked, hranked, rfl⟩ := Option.map_eq_some_iff.mp hscore
  have hin : ranked ∈ best :: others :=
    hperm.symm.subset (List.mem_filterMap.mpr ⟨other, hother, hranked⟩)
  have hsorted := pairwise_sortRanked (profiles.filterMap (ranked? sqrt candidate))
  rw [← rankProfiles, h] at hsorted
  obtain rfl | hrest := List.mem_cons.mp hin
  · exact le_rfl
  · exact (List.pairwise_cons.mp hsorted).1 ranked hrest

/-- The same profiles in another order are ranked with the same scores. -/
theorem scores_perm {others : List (Profile K)} (h : others.Perm profiles) :
    (rankProfiles sqrt candidate others).map (·.score) =
      (rankProfiles sqrt candidate profiles).map (·.score) :=
  scores_sortRanked (h.filterMap _)

/-- A best profile that comes first is identified, where no margin is asked for. -/
theorem identified_first {best other : Profile K} {score : K}
    (hmargin : thresholds.identifyMinMargin ≤ 0) (hconfidence : thresholds.identifyMinConfidence ≤ score)
    (hbest : IsBest sqrt candidate profiles best score)
    (hother : IsBest sqrt candidate profiles other score)
    (hids : (best.profileId, best.speakerPublicId) ≠ (other.profileId, other.speakerPublicId)) :
    ∃ others, others.Perm profiles ∧
      (identifyEmbedding sqrt candidate others thresholds).speaker =
        some (best.profileId, best.speakerPublicId) := by
  obtain ⟨ranked, hranked, rfl, hrankedIds, hmem, htop⟩ := hbest.exists_ranked
  obtain ⟨rankedOther, -, hsame, hotherIds, hotherMem, -⟩ := hother.exists_ranked
  obtain ⟨before, after, rfl⟩ := List.append_of_mem hbest.1
  have hperm : (best :: (before ++ after)).Perm (before ++ best :: after) := List.perm_middle.symm
  have hentries : (best :: (before ++ after)).filterMap (ranked? sqrt candidate) =
      ranked :: (before ++ after).filterMap (ranked? sqrt candidate) := by
    rw [List.filterMap_cons, hranked]
  have hentriesPerm : (ranked :: (before ++ after).filterMap (ranked? sqrt candidate)).Perm
      ((before ++ best :: after).filterMap (ranked? sqrt candidate)) :=
    hentries ▸ hperm.filterMap _
  have hfirst : rankProfiles sqrt candidate (best :: (before ++ after)) =
      ranked :: sortRanked ((before ++ after).filterMap (ranked? sqrt candidate)) := by
    rw [rankProfiles, hentries]
    exact sortRanked_cons fun o ho => htop o (hentriesPerm.subset (List.mem_cons_of_mem _ ho))
  -- The other one is ranked behind it, with the same score.
  have hbehind : rankedOther ∈ sortRanked ((before ++ after).filterMap (ranked? sqrt candidate)) := by
    have hin := hentriesPerm.symm.subset hotherMem
    obtain rfl | hrest := List.mem_cons.mp hin
    · exact absurd (hrankedIds.symm.trans hotherIds) hids
    · exact (sortRanked_perm _).symm.subset hrest
  refine ⟨best :: (before ++ after), hperm, ?_⟩
  have hidentified :
      (identifyEmbedding sqrt candidate (best :: (before ++ after)) thresholds).status = .identified := by
    rw [identified_iff, hfirst]
    cases hrest : sortRanked ((before ++ after).filterMap (ranked? sqrt candidate)) with
    | nil => exact absurd (hrest ▸ hbehind) List.not_mem_nil
    | cons second more =>
      have hle : second.score ≤ ranked.score := by
        apply htop
        apply hentriesPerm.subset
        exact List.mem_cons_of_mem _ ((sortRanked_perm _).subset (hrest ▸ List.mem_cons_self))
      refine ⟨hconfidence, ?_⟩
      simp only [List.map_cons, List.headD_cons]
      linarith
  rw [speaker_of_identified hfirst hidentified, hrankedIds]

/-- **The order matters exactly where a best score is shared and no margin is asked for.** -/
theorem orderIndependent_iff :
    OrderIndependent sqrt candidate profiles thresholds ↔
      NoSharedBest sqrt candidate profiles thresholds := by
  constructor
  · intro hindependent hmargin best other score hconfidence hbest hother
    by_contra hids
    obtain ⟨firstBest, hpermBest, hspeakerBest⟩ :=
      identified_first hmargin hconfidence hbest hother hids
    obtain ⟨firstOther, hpermOther, hspeakerOther⟩ :=
      identified_first hmargin hconfidence hother hbest (Ne.symm hids)
    have hsame := (hindependent firstBest hpermBest).2.trans (hindependent firstOther hpermOther).2.symm
    rw [hspeakerBest, hspeakerOther, Option.some.injEq] at hsame
    exact hids hsame
  · intro hshared others hperm
    have hscores : (rankProfiles sqrt candidate others).map (·.score) =
        (rankProfiles sqrt candidate profiles).map (·.score) := scores_perm hperm
    have hiff : (identifyEmbedding sqrt candidate others thresholds).status = .identified ↔
        (identifyEmbedding sqrt candidate profiles thresholds).status = .identified := by
      rw [identified_iff, identified_iff, hscores]
    cases hstatus : (identifyEmbedding sqrt candidate profiles thresholds).status with
    | unknown =>
      have hothers : (identifyEmbedding sqrt candidate others thresholds).status = .unknown := by
        cases h : (identifyEmbedding sqrt candidate others thresholds).status with
        | unknown => rfl
        | identified => simp [hiff.mp h] at hstatus
      exact ⟨hothers, by rw [speaker_of_unknown hothers, speaker_of_unknown hstatus]⟩
    | identified =>
      have hothers := hiff.mpr hstatus
      refine ⟨hothers, ?_⟩
      cases hranked : rankProfiles sqrt candidate profiles with
      | nil => simp [identified_iff, hranked, Accepts] at hstatus
      | cons best more =>
        cases hrankedOthers : rankProfiles sqrt candidate others with
        | nil => simp [identified_iff, hrankedOthers, Accepts] at hothers
        | cons first rest =>
          rw [speaker_of_identified hranked hstatus, speaker_of_identified hrankedOthers hothers]
          rw [hranked, hrankedOthers, List.map_cons, List.map_cons, List.cons.injEq] at hscores
          obtain ⟨hfirst, hrest⟩ := hscores
          have haccepts := identified_iff.mp hstatus
          rw [hranked] at haccepts
          obtain ⟨hconfidence, hmargin⟩ := haccepts
          by_cases hzero : thresholds.identifyMinMargin ≤ 0
          · -- Both are among the best.
            obtain ⟨profile, hprofile, hids⟩ := isBest_of_first hranked
            obtain ⟨profile', hprofile', hids'⟩ := isBest_of_first hrankedOthers
            have hmoved : IsBest sqrt candidate profiles profile' best.score :=
              hfirst ▸ ⟨hperm.subset hprofile'.1, hprofile'.2.1, fun o ho =>
                hprofile'.2.2 o (hperm.symm.subset ho)⟩
            rw [hids, hids', hshared hzero profile' profile best.score hconfidence hmoved hprofile]
          · -- With a margin only one has the best score.
            have hin : first ∈ best :: more := by
              have hmem : first ∈ rankProfiles sqrt candidate others := hrankedOthers ▸ List.mem_cons_self
              have hentry := (hperm.filterMap _).subset ((sortRanked_perm _).subset hmem)
              exact hranked ▸ (sortRanked_perm _).symm.subset hentry
            obtain rfl | hmore := List.mem_cons.mp hin
            · rfl
            · cases more with
              | nil => simp at hmore
              | cons second more =>
                have hsorted := pairwise_sortRanked (profiles.filterMap (ranked? sqrt candidate))
                rw [← rankProfiles, hranked] at hsorted
                have hle : first.score ≤ second.score := by
                  obtain rfl | htail := List.mem_cons.mp hmore
                  · exact le_rfl
                  · exact (List.pairwise_cons.mp (List.pairwise_cons.mp hsorted).2).1 first htail
                simp only [List.map_cons, List.headD_cons] at hmargin
                linarith

/-! ### Rivals -/

/-- A rival below the best of falling scores goes behind it. -/
theorem exists_behind {scores falling : List K} {rival best : K} {rest : List K}
    (hsorted : falling.Pairwise (· ≥ ·)) (hperm : falling.Perm (rival :: scores))
    (hscores : scores = best :: rest) (hbest : ∀ score ∈ rest, score ≤ best) (hrival : rival < best) :
    ∃ behind, falling = best :: behind ∧ behind.Perm (rival :: rest) := by
  subst hscores
  cases falling with
  | nil => simpa using hperm.length_eq
  | cons first behind =>
    have hmem : best ∈ first :: behind := hperm.symm.subset (by simp)
    have hle : best ≤ first := by
      obtain rfl | hbehind := List.mem_cons.mp hmem
      · exact le_rfl
      · exact (List.pairwise_cons.mp hsorted).1 best hbehind
    have hge : first ≤ best := by
      have hin : first ∈ rival :: best :: rest := hperm.subset (by simp)
      obtain rfl | rfl | hrest : first = rival ∨ first = best ∨ first ∈ rest := by simpa using hin
      · exact hrival.le
      · exact le_rfl
      · exact hbest first hrest
    obtain rfl : first = best := le_antisymm hge hle
    exact ⟨behind, rfl, (hperm.trans (List.Perm.swap _ _ _)).cons_inv⟩

/-- The scores with a rival, in order. -/
theorem scores_with_rival {before after : List (Profile K)} {rival : Profile K} {rivalScore : K}
    (hrival : scoreOf sqrt candidate rival = some rivalScore) :
    ((rankProfiles sqrt candidate (before ++ rival :: after)).map (·.score)).Perm
      (rivalScore :: (rankProfiles sqrt candidate (before ++ after)).map (·.score)) := by
  obtain ⟨ranked, hranked, rfl⟩ := Option.map_eq_some_iff.mp hrival
  have hentries : ((before ++ rival :: after).filterMap (ranked? sqrt candidate)).Perm
      (ranked :: (before ++ after).filterMap (ranked? sqrt candidate)) := by
    have hmiddle : (before ++ rival :: after).Perm (rival :: (before ++ after)) := List.perm_middle
    have h := hmiddle.filterMap (ranked? sqrt candidate)
    rwa [List.filterMap_cons, hranked] at h
  have hsorted := (sortRanked_perm _).trans (hentries.trans ((sortRanked_perm
    ((before ++ after).filterMap (ranked? sqrt candidate))).symm.cons ranked))
  exact hsorted.map (·.score)

theorem unknown_iff :
    (identifyEmbedding sqrt candidate profiles thresholds).status = .unknown ↔
      ¬ Accepts thresholds ((rankProfiles sqrt candidate profiles).map (·.score)) := by
  rw [← identified_iff]
  cases (identifyEmbedding sqrt candidate profiles thresholds).status <;> simp

/-- The scores as they are ranked, and as they are stored. -/
theorem scores_rankProfiles :
    ((rankProfiles sqrt candidate profiles).map (·.score)).Perm
      (profiles.filterMap (scoreOf sqrt candidate)) := by
  have h := (sortRanked_perm (profiles.filterMap (ranked? sqrt candidate))).map (·.score)
  rwa [List.map_filterMap] at h

/-- **A rival makes a speaker identified exactly where it is negative and alone behind the best.** -/
theorem rivalKeepsUnknown_iff :
    RivalKeepsUnknown sqrt candidate profiles thresholds ↔
      NoNegativeRival sqrt candidate profiles thresholds := by
  constructor
  · intro hkeeps score rivalScore rival halone hrival hless hconfidence hshort
    by_contra henough
    have hscores : (rankProfiles sqrt candidate profiles).map (·.score) = [score] :=
      List.perm_singleton.mp (halone ▸ scores_rankProfiles)
    obtain ⟨best, hmem, hbest⟩ := List.mem_filterMap.mp
      (halone ▸ List.mem_cons_self : score ∈ profiles.filterMap (scoreOf sqrt candidate))
    have htop : IsBest sqrt candidate profiles best score := by
      refine ⟨hmem, hbest, fun other hother otherScore hotherScore => ?_⟩
      have hin : otherScore ∈ profiles.filterMap (scoreOf sqrt candidate) :=
        List.mem_filterMap.mpr ⟨other, hother, hotherScore⟩
      rw [halone, List.mem_singleton] at hin
      exact hin.le
    have hunknown : (identifyEmbedding sqrt candidate profiles thresholds).status = .unknown := by
      rw [unknown_iff, hscores]
      rintro ⟨-, hmargin⟩
      simp only [List.headD_nil, sub_zero] at hmargin
      linarith
    have hstill := hkeeps [] profiles rival best rivalScore score rfl htop hrival hless hunknown
    rw [List.nil_append, unknown_iff] at hstill
    have hperm := @scores_with_rival _ _ _ _ _ sqrt candidate [] profiles rival rivalScore hrival
    rw [List.nil_append, List.nil_append, hscores] at hperm
    have hsorted := falling_scores ((rival :: profiles).filterMap (ranked? sqrt candidate))
    obtain ⟨behind, hfalling, hbehind⟩ := exists_behind hsorted hperm rfl (by simp) hless
    rw [rankProfiles, hfalling, List.perm_singleton.mp hbehind] at hstill
    refine hstill ⟨hconfidence, ?_⟩
    simpa using henough
  · intro hnegative before after rival best rivalScore score hprofiles hbest hrival hless hunknown
    subst hprofiles
    obtain ⟨ranked, -, rfl, -, hmem, htop⟩ := hbest.exists_ranked
    cases hranked : rankProfiles sqrt candidate (before ++ after) with
    | nil =>
      have hin := (sortRanked_perm _).symm.subset hmem
      rw [← rankProfiles, hranked] at hin
      exact absurd hin List.not_mem_nil
    | cons first rest =>
      have hsortedBefore := pairwise_sortRanked ((before ++ after).filterMap (ranked? sqrt candidate))
      rw [← rankProfiles, hranked] at hsortedBefore
      have hrest := (List.pairwise_cons.mp hsortedBefore).1
      -- The first one has the best score.
      have hfirst : first.score = ranked.score := by
        apply le_antisymm
        · have hin : first ∈ rankProfiles sqrt candidate (before ++ after) :=
            hranked ▸ List.mem_cons_self
          exact htop first ((sortRanked_perm _).subset hin)
        · have hin := (sortRanked_perm _).symm.subset hmem
          rw [← rankProfiles, hranked] at hin
          obtain rfl | htail := List.mem_cons.mp hin
          · exact le_rfl
          · exact hrest ranked htail
      have hperm := @scores_with_rival _ _ _ _ _ sqrt candidate before after rival rivalScore hrival
      have hsorted := falling_scores
        ((before ++ rival :: after).filterMap (ranked? sqrt candidate))
      obtain ⟨behind, hfalling, hbehind⟩ := exists_behind hsorted hperm
        (by rw [hranked, List.map_cons]) (by simpa using hrest) (hfirst ▸ hless)
      rw [unknown_iff, rankProfiles, hfalling]
      rw [unknown_iff, hranked] at hunknown
      rintro ⟨hconfidence, hmargin⟩
      refine hunknown ⟨hconfidence, ?_⟩
      cases rest with
      | nil =>
        -- Behind the only other score the margin is counted from the rival.
        rw [List.map_nil] at hbehind
        rw [List.perm_singleton.mp hbehind, List.headD_cons] at hmargin
        rw [List.map_nil, List.headD_nil, sub_zero]
        by_contra hshort
        have halone : (before ++ after).filterMap (scoreOf sqrt candidate) = [first.score] := by
          exact List.perm_singleton.mp (hranked ▸ scores_rankProfiles).symm
        have := hnegative first.score rivalScore rival halone hrival (hfirst ▸ hless) hconfidence
          (not_le.mp hshort)
        linarith
      | cons second more =>
        have hsecond : second.score ≤ behind.headD 0 := by
          have hin : second.score ∈ behind := hbehind.symm.subset (by simp)
          have hfallingSorted := hfalling ▸ hsorted
          cases behind with
          | nil => simp at hin
          | cons head tail =>
            obtain heq | htail := List.mem_cons.mp hin
            · exact heq.le
            · exact (List.pairwise_cons.mp (List.pairwise_cons.mp hfallingSorted).2).1 _ htail
        simp only [List.map_cons, List.headD_cons]
        linarith

/-- **Identification depends on the scores alone exactly without shared bests and negative rivals.** -/
theorem identification_iff (sqrt : K → K) (candidate : SpeakerEmbedding K) (profiles : List (Profile K))
    (thresholds : SpeakerThresholds K) :
    (OrderIndependent sqrt candidate profiles thresholds ∧
        RivalKeepsUnknown sqrt candidate profiles thresholds) ↔
      NoSharedBest sqrt candidate profiles thresholds ∧
        NoNegativeRival sqrt candidate profiles thresholds :=
  and_congr orderIndependent_iff rivalKeepsUnknown_iff

end Scores

/-! ### A negative rival -/

/-- A unit vector that is compared. -/
private def unit (K : Type) [Field K] : SpeakerEmbedding K := ⟨"ecapa", [1, 0]⟩

private def profileAt {K : Type} [Field K] (id : String) (x : K) : Profile K :=
  ⟨id, id, some "ecapa", [some ⟨"ecapa", [x, 4 / 5]⟩]⟩

theorem scoreOf_profileAt (id : String) (n : ℤ) (h : ((n : ℝ) / 10 ^ 6) * (n / 10 ^ 6) + 4 / 5 * (4 / 5) = 1) :
    scoreOf Real.sqrt (unit ℝ) (profileAt id ((n : ℝ) / 10 ^ 6)) = some ((n : ℝ) / 10 ^ 6) := by
  have hdigits : HasDigits 6 ((n : ℝ) / 10 ^ 6) := ⟨n, rfl⟩
  have hcosine : cosineSimilarity Real.sqrt [(n : ℝ) / 10 ^ 6, 4 / 5] [1, 0] = n / 10 ^ 6 := by
    have hleft : norm Real.sqrt [(n : ℝ) / 10 ^ 6, 4 / 5] = 1 := by
      simp only [norm, List.map_cons, List.map_nil, List.sum_cons, List.sum_nil, add_zero]
      rw [h, Real.sqrt_one]
    have hright : norm Real.sqrt [(1 : ℝ), 0] = 1 := by simp [norm]
    rw [cosineSimilarity, hleft, hright]
    simp
  have hscore : scores Real.sqrt (unit ℝ) (profileAt id ((n : ℝ) / 10 ^ 6)) = [(n : ℝ) / 10 ^ 6] := by
    simp [scores, profileAt, unit, scoreEmbeddingPair, hcosine, hdigits.round]
  have hproviders : (profileAt id ((n : ℝ) / 10 ^ 6)).providerId = some (unit ℝ).providerId := rfl
  simp [scoreOf, ranked?, hproviders, hscore, hdigits.round]

/-- The score 0.6 of one profile has the margin 0.1, whatever its rivals. -/
theorem identification_of_one :
    OrderIndependent Real.sqrt (unit ℝ) [profileAt "ana" ((600000 : ℤ) / 10 ^ 6)] ⟨0.5, 0.1⟩ ∧
      RivalKeepsUnknown Real.sqrt (unit ℝ) [profileAt "ana" ((600000 : ℤ) / 10 ^ 6)] ⟨0.5, 0.1⟩ := by
  refine (identification_iff _ _ _ _).mpr ⟨fun hmargin => ?_, fun score _ _ hscores _ _ _ hlow => ?_⟩
  · norm_num at hmargin
  · rw [List.filterMap_cons, scoreOf_profileAt "ana" 600000 (by norm_num), List.filterMap_nil] at hscores
    rw [← List.singleton_inj.mp hscores] at hlow
    norm_num at hlow

/-- With a rival of score -0.6 the score 0.6 has the margin 1.2. -/
theorem negative_rival_identifies :
    ¬ ∀ (candidate : SpeakerEmbedding ℝ) (profiles : List (Profile ℝ)) (thresholds : SpeakerThresholds ℝ),
      thresholds.identifyMinConfidence ∈ Set.Icc 0 1 → thresholds.identifyMinMargin ∈ Set.Icc 0 1 →
      OrderIndependent Real.sqrt candidate profiles thresholds ∧
        RivalKeepsUnknown Real.sqrt candidate profiles thresholds := by
  intro hclaim
  have hbest := scoreOf_profileAt "ana" 600000 (by norm_num)
  have hrival := scoreOf_profileAt "ben" (-600000) (by norm_num)
  have hthreshold : (0.7 : ℝ) ∈ Set.Icc (0 : ℝ) 1 := by constructor <;> norm_num
  have hconfidence : (0.5 : ℝ) ∈ Set.Icc (0 : ℝ) 1 := by constructor <;> norm_num
  have hkeeps := rivalKeepsUnknown_iff.mp
    (hclaim (unit ℝ) [profileAt "ana" ((600000 : ℤ) / 10 ^ 6)] ⟨0.5, 0.7⟩ hconfidence hthreshold).2
  have halone : [profileAt "ana" ((600000 : ℤ) / 10 ^ 6 : ℝ)].filterMap
      (scoreOf Real.sqrt (unit ℝ)) = [((600000 : ℤ) : ℝ) / 10 ^ 6] := by
    rw [List.filterMap_cons, hbest, List.filterMap_nil]
  have hmargin := hkeeps _ _ _ halone hrival (by norm_num) (by norm_num) (by norm_num)
  norm_num at hmargin

end HexeVoice.Speakers.Identification
