import HexeVoice.Recordings.MicroVadChunks

/-!
# Micro-VAD audio of accepted sessions

## What is proved

**`accepted_audio_written`**: over the life of a session, from one close to the next, the recordings
of an accepted session hold each of its chunks once and in order, those of another session none, and
nothing of the session is kept.

`chunks_lost`: chunks without an index, broken frames, a session that is opened again, times that
read alike, and a capture that is open while an earlier one of its index is written.
-/

namespace HexeVoice.Recordings

open HexeVoice.Library HexeVoice.Voice

variable {strftime : WallTime → String} {s : MicroVadChunkRecordingService} {k : SessionKey}
variable {audioBytes : Bytes} {i : ℕ} {payload : MicroVadPayload}

/-! ### What a call does to one session -/

/-- What the recorder holds of one session. -/
@[ext]
structure SessionView where
  captures : ℕ → Option MicroVadCapture
  pending : List PendingCapture
  accepted : Prop
  recordings : List MicroVadRecording

/-- Whose a recording is. -/
def MicroVadRecording.session (r : MicroVadRecording) : SessionKey := (r.endpointId, r.sessionId)

namespace MicroVadChunkRecordingService

/-- What the recorder holds of the session. -/
def view (s : MicroVadChunkRecordingService) (k : SessionKey) : SessionView where
  captures i := s.captures.get (k, i)
  pending := (s.pendingCaptures.get k).getD []
  accepted := k ∈ s.acceptedSessions
  recordings := s.recordings.filter (·.session = k)

end MicroVadChunkRecordingService

@[simp] theorem session_recordingOf (k : SessionKey) (p : PendingCapture) :
    (recordingOf strftime k p).session = k := rfl

theorem filter_session_map (k k' : SessionKey) (ps : List PendingCapture) :
    (ps.map (recordingOf strftime k')).filter (·.session = k) =
      if k' = k then ps.map (recordingOf strftime k') else [] := by
  by_cases h : k' = k <;> simp [List.filter_map, Function.comp_def, h]

/-- The pending captures that are written. -/
def written (s : MicroVadChunkRecordingService) (k : SessionKey) : List PendingCapture :=
  ((s.pendingCaptures.get k).getD []).filter (·.capture.audio ≠ [])

/-- A flush writes the pending captures and drops the open ones of their indices. -/
theorem flushPendingSession_eq (s : MicroVadChunkRecordingService) (k : SessionKey) :
    s.flushPendingSession strftime k =
      ((written s k).map (recordingOf strftime k),
        { s with
          pendingCaptures := s.pendingCaptures.erase k
          recordings := s.recordings ++ (written s k).map (recordingOf strftime k)
          captures := (written s k).foldl (fun captures p =>
            captures.erase (k, p.microChunkIndex)) s.captures }) := by
  unfold MicroVadChunkRecordingService.flushPendingSession written
  generalize (s.pendingCaptures.get k).getD [] = pending
  have hloop (f : List MicroVadRecording × MicroVadChunkRecordingService → PendingCapture →
        List MicroVadRecording × MicroVadChunkRecordingService)
      (hf : ∀ rs s p, f (rs, s) p = if p.capture.audio = [] then (rs, s) else
        (rs ++ [recordingOf strftime k p], (s.writeCapture strftime k p).2))
      (rs : List MicroVadRecording) (s : MicroVadChunkRecordingService) :
      pending.foldl f (rs, s) =
        (rs ++ (pending.filter (·.capture.audio ≠ [])).map (recordingOf strftime k),
          { s with
            recordings :=
              s.recordings ++ (pending.filter (·.capture.audio ≠ [])).map (recordingOf strftime k)
            captures := (pending.filter (·.capture.audio ≠ [])).foldl (fun captures p =>
              captures.erase (k, p.microChunkIndex)) s.captures }) := by
    induction pending generalizing rs s with
    | nil => simp
    | cons p pending ih =>
      rw [List.foldl_cons, hf]
      by_cases hempty : p.capture.audio = []
      · simpa [hempty] using ih rs s
      · rw [if_neg hempty, ih]
        simp [hempty, MicroVadChunkRecordingService.writeCapture]
  dsimp only
  rw [hloop _ fun _ _ _ => rfl]
  simp

theorem get_foldl_erase (ps : List PendingCapture) (captures : Dict (SessionKey × ℕ) MicroVadCapture)
    (k k' : SessionKey) (i : ℕ) :
    (ps.foldl (fun captures p => captures.erase (k, p.microChunkIndex)) captures).get (k', i) =
      if k' = k ∧ i ∈ ps.map (·.microChunkIndex) then none else captures.get (k', i) := by
  induction ps generalizing captures with
  | nil => simp
  | cons p ps ih =>
    rw [List.foldl_cons, ih, Dict.get_erase]
    by_cases hk : k' = k
    · by_cases hi : i = p.microChunkIndex
      · simp [hk, hi]
      · simp [hk, hi]
    · simp [hk]

open MicroVadChunkRecordingService

/-- Nothing of the session is kept. -/
def SessionView.Cleared (v : SessionView) : Prop :=
  (∀ i, v.captures i = none) ∧ v.pending = [] ∧ ¬v.accepted

/-- The session a call is for. -/
def Call.session : Call → SessionKey
  | .captureAudioChunk session _ _ _ | .markSessionAccepted session | .closeSession session _ =>
    session

theorem view_flushPendingSession (s : MicroVadChunkRecordingService) (k k' : SessionKey) :
    (s.flushPendingSession strftime k').2.view k =
      if k' = k then
        { captures := fun i =>
            if i ∈ (written s k).map (·.microChunkIndex) then none else s.captures.get (k, i)
          pending := []
          accepted := k ∈ s.acceptedSessions
          recordings := (s.view k).recordings ++ (written s k).map (recordingOf strftime k) }
      else s.view k := by
  rw [flushPendingSession_eq]
  by_cases h : k' = k
  · subst h
    simp [view, get_foldl_erase, Dict.get_erase, List.filter_append, filter_session_map]
  · simp [view, get_foldl_erase, Dict.get_erase, List.filter_append, filter_session_map, h,
      Ne.symm h]

/-- The recordings that closing an accepted session writes of its open captures. -/
def closing (strftime : WallTime → String) (now : WallTime) (captures : Dict (SessionKey × ℕ) MicroVadCapture)
    (keys : List (SessionKey × ℕ)) : List MicroVadRecording :=
  keys.filterMap fun key => ((captures.get key).filter (·.audio ≠ [])).map fun capture =>
    recordingOf strftime key.1 ⟨key.2, capture, now, false⟩

/-- What closing a session does with its open captures. -/
theorem closeCaptures_eq (s : MicroVadChunkRecordingService) (now : WallTime)
    {keys : List (SessionKey × ℕ)} (hkeys : ∀ key ∈ keys, key.1 = k) (hnodup : keys.Nodup) :
    s.closeCaptures strftime k now keys =
      { s with
        captures := keys.foldl (fun captures key => captures.erase key) s.captures
        recordings := s.recordings ++ closing strftime now s.captures keys } := by
  unfold closeCaptures
  induction keys generalizing s with
  | nil => simp [closing]
  | cons key keys ih =>
    rw [List.forall_mem_cons] at hkeys
    rw [List.nodup_cons] at hnodup
    have hrest : closing strftime now (s.captures.erase key) keys =
        closing strftime now s.captures keys := by
      unfold closing
      refine List.filterMap_congr fun key' hkey' => ?_
      have hne : key' ≠ key := fun heq => hnodup.1 (heq ▸ hkey')
      rw [Dict.get_erase, if_neg hne]
    obtain ⟨k', i⟩ := key
    obtain rfl : k' = k := hkeys.1
    simp only [List.foldl_cons]
    cases hget : s.captures.get (k', i) with
    | none =>
      have herase := Dict.erase_of_get_eq_none hget
      rw [herase] at hrest ⊢
      rw [ih s hkeys.2 hnodup.2]
      simp [closing, hget]
    | some capture =>
      by_cases hempty : capture.audio = []
      · simp only [if_pos hempty]
        rw [ih _ hkeys.2 hnodup.2, hrest]
        simp [closing, hget, hempty]
      · simp only [if_neg hempty]
        rw [ih _ hkeys.2 hnodup.2]
        simp only [writeCapture, hrest]
        simp [closing, hget, hempty]

theorem get_foldl_erase_keys (keys : List (SessionKey × ℕ))
    (captures : Dict (SessionKey × ℕ) MicroVadCapture) (key : SessionKey × ℕ) :
    (keys.foldl (fun captures key => captures.erase key) captures).get key =
      if key ∈ keys then none else captures.get key := by
  induction keys generalizing captures with
  | nil => simp
  | cons key' keys ih =>
    rw [List.foldl_cons, ih, Dict.get_erase]
    by_cases h : key = key' <;> by_cases h' : key ∈ keys <;> simp [h, h']

/-- Of one index, closing writes what is open. -/
theorem filter_closing (now : WallTime) (captures : Dict (SessionKey × ℕ) MicroVadCapture)
    {keys : List (SessionKey × ℕ)} (hkeys : ∀ key ∈ keys, key.1 = k) (hnodup : keys.Nodup) (i : ℕ) :
    (closing strftime now captures keys).filter (·.microVadChunkIndex = i) =
      if (k, i) ∈ keys then (((captures.get (k, i)).filter (·.audio ≠ [])).map fun capture =>
        recordingOf strftime k ⟨i, capture, now, false⟩).toList
      else [] := by
  induction keys with
  | nil => simp [closing]
  | cons key keys ih =>
    rw [List.forall_mem_cons] at hkeys
    rw [List.nodup_cons] at hnodup
    have ih := ih hkeys.2 hnodup.2
    obtain ⟨k', j⟩ := key
    obtain rfl : k' = k := hkeys.1
    have hcons : closing strftime now captures ((k', j) :: keys) =
        (((captures.get (k', j)).filter (·.audio ≠ [])).map fun capture =>
          recordingOf strftime k' ⟨j, capture, now, false⟩).toList ++
            closing strftime now captures keys := by
      unfold closing
      rw [List.filterMap_cons]
      cases ((captures.get (k', j)).filter (·.audio ≠ [])) <;> rfl
    rw [hcons, List.filter_append, ih]
    by_cases hij : i = j
    · subst hij
      rw [if_neg hnodup.1, if_pos List.mem_cons_self, List.append_nil]
      cases ((captures.get (k', i)).filter (·.audio ≠ [])) <;> simp [recordingOf]
    · have hmem : ((k', i) ∈ (k', j) :: keys) ↔ (k', i) ∈ keys := by simp [hij]
      simp only [hmem]
      cases ((captures.get (k', j)).filter (·.audio ≠ [])) <;> simp [recordingOf, Ne.symm hij]

theorem filter_session_closing (now : WallTime) (captures : Dict (SessionKey × ℕ) MicroVadCapture)
    {keys : List (SessionKey × ℕ)} (hkeys : ∀ key ∈ keys, key.1 = k) (k' : SessionKey) :
    (closing strftime now captures keys).filter (·.session = k') =
      if k = k' then closing strftime now captures keys else [] := by
  have hsession : ∀ r ∈ closing strftime now captures keys, r.session = k := by
    intro r hr
    obtain ⟨key, hkey, hr⟩ := List.mem_filterMap.mp hr
    obtain ⟨capture, -, rfl⟩ := Option.map_eq_some_iff.mp hr
    exact hkeys key hkey
  split
  · next h =>
    rw [List.filter_eq_self]
    intro r hr
    simp [hsession r hr, h]
  · next h =>
    rw [List.filter_eq_nil_iff]
    intro r hr
    simp [hsession r hr, h]

theorem mem_openKeys : (k, i) ∈ s.openKeys k ↔ (s.captures.get (k, i)).isSome := by
  rw [Dict.isSome_get_iff, openKeys, List.mem_filter]
  simp

theorem fst_of_mem_openKeys {key : SessionKey × ℕ} (h : key ∈ s.openKeys k) : key.1 = k := by
  simpa using (List.mem_filter.mp h).2

/-- The recorder after an accepted session is flushed. -/
abbrev flushed (strftime : WallTime → String) (s : MicroVadChunkRecordingService) (k : SessionKey) :
    MicroVadChunkRecordingService := (s.flushPendingSession strftime k).2

theorem nodup_foldl_erase (ps : List PendingCapture)
    {captures : Dict (SessionKey × ℕ) MicroVadCapture} (h : captures.keys.Nodup) :
    (ps.foldl (fun captures p => captures.erase (k, p.microChunkIndex)) captures).keys.Nodup := by
  induction ps generalizing captures with
  | nil => exact h
  | cons p ps ih => exact ih (h.sublist (Dict.keys_erase_sublist _ _))

theorem nodup_foldl_erase_keys (keys : List (SessionKey × ℕ))
    {captures : Dict (SessionKey × ℕ) MicroVadCapture} (h : captures.keys.Nodup) :
    (keys.foldl (fun captures key => captures.erase key) captures).keys.Nodup := by
  induction keys generalizing captures with
  | nil => exact h
  | cons key keys ih => exact ih (h.sublist (Dict.keys_erase_sublist _ _))

theorem nodup_flushed (h : s.captures.keys.Nodup) :
    (flushed strftime s k).captures.keys.Nodup := by
  rw [flushed, flushPendingSession_eq]
  exact nodup_foldl_erase _ h

theorem closeSession_of_accepted (now : WallTime) (hnodup : s.captures.keys.Nodup)
    (haccepted : k ∈ s.acceptedSessions) :
    s.closeSession strftime k now =
      { flushed strftime s k with
        captures := ((flushed strftime s k).openKeys k).foldl (fun captures key =>
          captures.erase key) (flushed strftime s k).captures
        recordings := (flushed strftime s k).recordings ++
          closing strftime now (flushed strftime s k).captures ((flushed strftime s k).openKeys k)
        acceptedSessions := s.acceptedSessions.filter (· ≠ k) } := by
  have hkeys : ((flushed strftime s k).openKeys k).Nodup := (nodup_flushed hnodup).filter _
  have haccepted' : (flushed strftime s k).acceptedSessions = s.acceptedSessions := by
    rw [flushed, flushPendingSession_eq]
  unfold closeSession
  rw [if_neg (not_not.mpr haccepted)]
  dsimp only
  rw [closeCaptures_eq _ now (fun key hkey => fst_of_mem_openKeys hkey) hkeys, ← haccepted']

/-! ### The views of a call -/

/-- The chunk is captured for an index: it is not empty and holds samples. -/
structure Captured (payload : MicroVadPayload) (audioBytes : Bytes) (i : ℕ) : Prop where
  index : payload.microVadChunkIndex = some i
  audio : audioBytes ≠ []
  encoding : payload.audioFormat.encoding = .pcmS16le

instance (payload : MicroVadPayload) (audioBytes : Bytes) (i : ℕ) :
    Decidable (Captured payload audioBytes i) :=
  decidable_of_iff (_ ∧ _ ∧ _) ⟨fun h => ⟨h.1, h.2.1, h.2.2⟩, fun h => ⟨h.1, h.2, h.3⟩⟩

theorem captureAudioChunk_of_not
    (h : ∀ i, ¬Captured payload audioBytes i) (receivedAt : WallTime) :
    (s.captureAudioChunk strftime k payload audioBytes receivedAt).2 = s := by
  unfold captureAudioChunk
  cases hindex : payload.microVadChunkIndex with
  | none => rfl
  | some i =>
    dsimp only
    rw [if_pos]
    by_contra hkept
    rw [not_or, not_not] at hkept
    exact h i ⟨hindex, hkept.1, hkept.2⟩

theorem captureAudioChunk_of_captured
    (h : Captured payload audioBytes i) (receivedAt : WallTime) :
    (s.captureAudioChunk strftime k payload audioBytes receivedAt).2 =
      let capture :=
        (captureFor (s.captures.get (k, i)) payload receivedAt).extend payload audioBytes
      if payload.microVadChunkFinal then
        if k ∈ s.acceptedSessions then
          { s with
            captures := s.captures.erase (k, i)
            recordings := s.recordings ++ [recordingOf strftime k ⟨i, capture, receivedAt, true⟩] }
        else
          { s with
            captures := s.captures.erase (k, i)
            pendingCaptures := s.pendingCaptures.set k
              ((s.pendingCaptures.get k).getD [] ++ [⟨i, capture, receivedAt, true⟩]) }
      else { s with captures := s.captures.set (k, i) capture } := by
  have herase {d : Dict (SessionKey × ℕ) MicroVadCapture} :
      (d.erase (k, i)).erase (k, i) = d.erase (k, i) :=
    Dict.erase_of_get_eq_none (by rw [Dict.get_erase, if_pos rfl])
  have hkept : ¬(audioBytes = [] ∨ payload.audioFormat.encoding ≠ .pcmS16le) := by
    simp [h.audio, h.encoding]
  unfold captureAudioChunk
  rw [h.index]
  dsimp only
  rw [if_neg hkept]
  by_cases hfinal : payload.microVadChunkFinal = true
  · rw [if_pos hfinal, if_pos hfinal]
    unfold finishCapture
    dsimp only
    by_cases haccepted : k ∈ s.acceptedSessions
    · rw [if_pos haccepted, if_pos haccepted]
      simp only [writeCapture, Dict.erase_set, herase]
    · rw [if_neg haccepted, if_neg haccepted]
      simp only [Dict.erase_set]
  · rw [if_neg hfinal, if_neg hfinal]

/-- What a captured chunk changes of its session. -/
theorem view_captureAudioChunk
    (h : Captured payload audioBytes i) (receivedAt : WallTime) :
    (s.captureAudioChunk strftime k payload audioBytes receivedAt).2.view k =
      let v := s.view k
      let capture := (captureFor (v.captures i) payload receivedAt).extend payload audioBytes
      if payload.microVadChunkFinal then
        if k ∈ s.acceptedSessions then
          { v with
            captures := fun j => if j = i then none else v.captures j
            recordings := v.recordings ++ [recordingOf strftime k ⟨i, capture, receivedAt, true⟩] }
        else
          { v with
            captures := fun j => if j = i then none else v.captures j
            pending := v.pending ++ [⟨i, capture, receivedAt, true⟩] }
      else { v with captures := fun j => if j = i then some capture else v.captures j } := by
  rw [captureAudioChunk_of_captured h]
  dsimp only
  split
  · split
    · simp [view, Dict.get_erase, List.filter_append]
    · simp [view, Dict.get_erase]
  · simp [view, Dict.get_set]

theorem view_closeSession_of_accepted (now : WallTime) (hnodup : s.captures.keys.Nodup)
    (haccepted : k ∈ s.acceptedSessions) (k' : SessionKey) :
    (s.closeSession strftime k now).view k' =
      if k = k' then
        { captures := fun _ => none
          pending := []
          accepted := False
          recordings := ((flushed strftime s k).view k').recordings ++
            closing strftime now (flushed strftime s k).captures
              ((flushed strftime s k).openKeys k) }
      else (flushed strftime s k).view k' := by
  have hsession : (closing strftime now (flushed strftime s k).captures
      ((flushed strftime s k).openKeys k)).filter (·.session = k') = _ :=
    filter_session_closing now _ (fun key hkey => fst_of_mem_openKeys hkey) k'
  have haccepted' : (flushed strftime s k).acceptedSessions = s.acceptedSessions := by
    rw [flushed, flushPendingSession_eq]
  have hpending : (flushed strftime s k).pendingCaptures = s.pendingCaptures.erase k := by
    rw [flushed, flushPendingSession_eq]
  rw [closeSession_of_accepted now hnodup haccepted]
  by_cases h : k = k'
  · subst h
    rw [if_pos rfl] at hsession ⊢
    ext1
    · funext i
      show (((flushed strftime s k).openKeys k).foldl (fun captures key => captures.erase key)
        (flushed strftime s k).captures).get (k, i) = none
      rw [get_foldl_erase_keys]
      split
      · rfl
      · next hnone => simpa [mem_openKeys] using hnone
    · show ((flushed strftime s k).pendingCaptures.get k).getD [] = []
      rw [hpending, Dict.get_erase, if_pos rfl]
      rfl
    · simp [view]
    · simp only [view, List.filter_append, hsession]
  · rw [if_neg h] at hsession ⊢
    have hkey (i : ℕ) : (k', i) ∉ (flushed strftime s k).openKeys k := fun hmem =>
      h (fst_of_mem_openKeys hmem).symm
    ext1
    · funext i
      simp only [view, get_foldl_erase_keys, if_neg (hkey i)]
    · rfl
    · simp [view, haccepted', Ne.symm h]
    · simp only [view, List.filter_append, hsession, List.append_nil]

/-- A call for a session leaves what is held of the others. -/
theorem view_step_of_ne (hnodup : s.captures.keys.Nodup) {call : Call} (h : call.session ≠ k) :
    (step strftime s call).view k = s.view k := by
  cases call with
  | captureAudioChunk session payload audioBytes receivedAt =>
    have hne : session ≠ k := h
    have hrecording (p : PendingCapture) :
        [recordingOf strftime session p].filter (·.session = k) = [] := by simp [hne]
    show (s.captureAudioChunk strftime session payload audioBytes receivedAt).2.view k = s.view k
    by_cases hcaptured : ∃ i, Captured payload audioBytes i
    · obtain ⟨i, hcaptured⟩ := hcaptured
      rw [captureAudioChunk_of_captured hcaptured]
      dsimp only
      split
      · split
        · simp [view, Dict.get_erase, Ne.symm hne, hrecording]
        · simp [view, Dict.get_erase, Dict.get_set, Ne.symm hne]
      · simp [view, Dict.get_set, Ne.symm hne]
    · rw [captureAudioChunk_of_not (by simpa using hcaptured)]
  | markSessionAccepted session =>
    have hne : session ≠ k := h
    show (s.markSessionAccepted strftime session).2.view k = s.view k
    unfold markSessionAccepted
    dsimp only
    rw [view_flushPendingSession, if_neg hne]
    simp [view, Ne.symm hne]
  | closeSession session now =>
    have hne : session ≠ k := h
    show (s.closeSession strftime session now).view k = s.view k
    by_cases haccepted : session ∈ s.acceptedSessions
    · rw [view_closeSession_of_accepted now hnodup haccepted, if_neg hne, flushed,
        view_flushPendingSession, if_neg hne]
    · unfold closeSession
      rw [if_pos haccepted]
      simp [discardSession, view, Dict.get_erase, Dict.get_filter, Ne.symm hne]

/-- A session that is closed is cleared. -/
theorem cleared_closeSession (now : WallTime) (hnodup : s.captures.keys.Nodup) :
    ((s.closeSession strftime k now).view k).Cleared := by
  by_cases haccepted : k ∈ s.acceptedSessions
  · rw [view_closeSession_of_accepted now hnodup haccepted, if_pos rfl]
    exact ⟨fun _ => rfl, rfl, id⟩
  · unfold closeSession
    rw [if_pos haccepted]
    refine ⟨fun i => ?_, ?_, ?_⟩
    · simp [discardSession, view, Dict.get_filter]
    · simp [discardSession, view, Dict.get_erase]
    · simp [discardSession, view]

theorem nodup_step (hnodup : s.captures.keys.Nodup) (call : Call) :
    (step strftime s call).captures.keys.Nodup := by
  cases call with
  | captureAudioChunk session payload audioBytes receivedAt =>
    show (s.captureAudioChunk strftime session payload audioBytes receivedAt).2.captures.keys.Nodup
    by_cases hcaptured : ∃ i, Captured payload audioBytes i
    · obtain ⟨i, hcaptured⟩ := hcaptured
      rw [captureAudioChunk_of_captured hcaptured]
      dsimp only
      split
      · split <;> exact hnodup.sublist (Dict.keys_erase_sublist _ _)
      · exact Dict.nodup_keys_set hnodup _ _
    · rw [captureAudioChunk_of_not (by simpa using hcaptured)]
      exact hnodup
  | markSessionAccepted session => exact nodup_flushed hnodup
  | closeSession session now =>
    show (s.closeSession strftime session now).captures.keys.Nodup
    by_cases haccepted : session ∈ s.acceptedSessions
    · rw [closeSession_of_accepted now hnodup haccepted]
      exact nodup_foldl_erase_keys _ (nodup_flushed hnodup)
    · unfold closeSession
      rw [if_pos haccepted]
      exact hnodup.sublist (Dict.keys_filter_sublist _ _)

/-! ### The life of a session -/

/-- The chunk of an index that a call captures for a session. -/
def Call.chunkOf (k : SessionKey) (i : ℕ) : Call → Option Bytes
  | .captureAudioChunk session payload audioBytes _ =>
    if session = k ∧ Captured payload audioBytes i then some audioBytes else none
  | _ => none

/-- The chunks of an index that the calls capture for a session. -/
def chunksOf (k : SessionKey) (i : ℕ) (calls : List Call) : List Bytes :=
  calls.filterMap (·.chunkOf k i)

/-- The calls accept the session. -/
def Marked (k : SessionKey) (calls : List Call) : Prop := .markSessionAccepted k ∈ calls

/-- The recordings of an index. -/
def audioOf (i : ℕ) (recordings : List MicroVadRecording) : List Bytes :=
  (recordings.filter (·.microVadChunkIndex = i)).map (·.audio)

theorem audioOf_append (i : ℕ) (rs rs' : List MicroVadRecording) :
    audioOf i (rs ++ rs') = audioOf i rs ++ audioOf i rs' := by
  simp [audioOf]

/-- A capture of whole frames. -/
structure Whole (format : VoiceAudioFormat) (c : MicroVadCapture) : Prop where
  sameFormat : c.audioFormat = format
  aligned : frameSize format ∣ c.audio.length
  audio : c.audio ≠ []

theorem Whole.recorded {format : VoiceAudioFormat} {p : PendingCapture}
    (h : Whole format p.capture) : (recordingOf strftime k p).audio = p.capture.audio :=
  alignedAudio_of_dvd (h.sameFormat ▸ h.aligned)

/-- The chunks of an index are in the recordings, the pending captures and the open capture of the
session, in groups that each became one of them. -/
def Conserved (old : List MicroVadRecording) (v : SessionView) (i : ℕ) (chunks : List Bytes) : Prop :=
  ∃ gw gp go : List (List Bytes), (∀ g ∈ gw ++ gp ++ go, g ≠ []) ∧
    (gw ++ gp ++ go).flatten = chunks ∧
    audioOf i v.recordings = audioOf i old ++ gw.map List.flatten ∧
    (v.pending.filter (·.microChunkIndex = i)).map (·.capture.audio) = gp.map List.flatten ∧
    ((v.captures i).map (·.audio)).toList = go.map List.flatten

/-- The group that is open, with a chunk more. -/
theorem Conserved.grow {old : List MicroVadRecording} {v : SessionView}
    {chunks : List Bytes} (h : Conserved old v i chunks) (audioBytes : Bytes) :
    ∃ (gw gp : List (List Bytes)) (g : List Bytes), (∀ g ∈ gw ++ gp, g ≠ []) ∧ g ≠ [] ∧
      (gw ++ gp).flatten ++ g = chunks ++ [audioBytes] ∧
      audioOf i v.recordings = audioOf i old ++ gw.map List.flatten ∧
      (v.pending.filter (·.microChunkIndex = i)).map (·.capture.audio) = gp.map List.flatten ∧
      ((v.captures i).map (·.audio)).getD [] ++ audioBytes = g.flatten := by
  obtain ⟨gw, gp, go, hne, hflat, hw, hp, ho⟩ := h
  refine ⟨gw, gp, go.flatten ++ [audioBytes],
    fun g hg => hne g (List.mem_append_left _ hg), by simp, ?_, hw, hp, ?_⟩
  · simp [← hflat]
  · cases hopen : v.captures i with
    | none =>
      rw [hopen] at ho
      obtain rfl : go = [] := by simpa using ho.symm
      simp
    | some c =>
      rw [hopen] at ho
      cases go with
      | nil => cases ho
      | cons g go =>
        obtain ⟨hg, hgo⟩ : c.audio = g.flatten ∧ [] = go.map List.flatten := by simpa using ho
        obtain rfl : go = [] := by simpa using hgo.symm
        simp [hg]

/-- The life of a session so far. -/
structure Life (format : VoiceAudioFormat) (k : SessionKey) (old : List MicroVadRecording)
    (life : List Call) (v : SessionView) : Prop where
  accepted : v.accepted ↔ Marked k life
  drained : v.accepted → v.pending = []
  silent : ¬v.accepted → v.recordings = old
  opened : ∀ i c, v.captures i = some c → Whole format c
  waiting : ∀ p ∈ v.pending, Whole format p.capture
  conserved : ∀ i, Conserved old v i (chunksOf k i life)

namespace Life

variable {format : VoiceAudioFormat} {old : List MicroVadRecording} {life : List Call}
variable {payload : MicroVadPayload}

theorem start (hcleared : (s.view k).Cleared) :
    Life format k (s.view k).recordings [] (s.view k) where
  accepted := by simp [Marked, hcleared.2.2]
  drained h := absurd h hcleared.2.2
  silent _ := rfl
  opened i c h := by simp [hcleared.1 i] at h
  waiting p h := by simp [hcleared.2.1] at h
  conserved i := ⟨[], [], [], by simp, by simp [chunksOf], by simp, by simp [hcleared.2.1],
    by simp [hcleared.1 i]⟩

/-- A call that changes nothing of the session. -/
theorem idle {v : SessionView} (h : Life format k old life v) {call : Call}
    (hmark : call ≠ .markSessionAccepted k) (hchunk : ∀ i, chunksOf k i [call] = []) :
    Life format k old (life ++ [call]) v where
  accepted := by
    rw [h.accepted, Marked, Marked, List.mem_append, List.mem_singleton]
    exact ⟨.inl, fun hor => hor.resolve_right (Ne.symm hmark)⟩
  drained := h.drained
  silent := h.silent
  opened := h.opened
  waiting := h.waiting
  conserved i := by
    obtain ⟨gw, gp, go, hne, hflat, hw, hp, ho⟩ := h.conserved i
    refine ⟨gw, gp, go, hne, ?_, hw, hp, ho⟩
    have hchunk := hchunk i
    rw [chunksOf] at hflat hchunk ⊢
    rw [List.filterMap_append, hchunk, List.append_nil, hflat]

/-- The capture of a chunk holds the chunks of the open one and this. -/
theorem capture {v : SessionView} (h : Life format k old life v)
    (hformat : payload.audioFormat = format)
    (hstarted : payload.microVadChunkStarted = true → chunksOf k i life = [])
    (receivedAt : WallTime) :
    (captureFor (v.captures i) payload receivedAt).audio =
        (((v.captures i).map (·.audio)).getD []) ∧
      (captureFor (v.captures i) payload receivedAt).audioFormat = format := by
  cases hopen : v.captures i with
  | none => exact ⟨rfl, hformat⟩
  | some c =>
    have hc := h.opened i c hopen
    have hnot : payload.microVadChunkStarted = false := by
      by_contra hstart
      obtain ⟨gw, gp, go, hne, hflat, -, -, ho⟩ := h.conserved i
      rw [hstarted (by simpa using hstart)] at hflat
      rw [hopen] at ho
      cases go with
      | nil => cases ho
      | cons g go =>
        have hg := hne g (by simp)
        rw [List.flatten_append, List.append_eq_nil_iff, List.flatten_cons,
          List.append_eq_nil_iff] at hflat
        exact hg hflat.2.1
    have hsame : ¬(c.audioFormat ≠ payload.audioFormat ∨ payload.microVadChunkStarted = true) := by
      simp [hc.sameFormat, hformat, hnot]
    unfold captureFor
    dsimp only
    rw [if_neg hsame]
    exact ⟨rfl, hc.sameFormat⟩

theorem chunksOf_concat
    (h : Captured payload audioBytes i) (receivedAt : WallTime) (j : ℕ) :
    chunksOf k j (life ++ [.captureAudioChunk k payload audioBytes receivedAt]) =
      chunksOf k j life ++ if j = i then [audioBytes] else [] := by
  have hj : Captured payload audioBytes j ↔ j = i := by
    constructor
    · intro hj
      exact Option.some.inj (hj.index.symm.trans h.index)
    · rintro rfl
      exact h
  rw [chunksOf, List.filterMap_append, ← chunksOf]
  by_cases heq : j = i
  · subst heq
    simp [Call.chunkOf, h]
  · simp [Call.chunkOf, hj, heq]

theorem chunk (h : Life format k old life (s.view k)) (hcaptured : Captured payload audioBytes i)
    (hformat : payload.audioFormat = format) (haligned : frameSize format ∣ audioBytes.length)
    (hstarted : payload.microVadChunkStarted = true → chunksOf k i life = [])
    (receivedAt : WallTime) :
    Life format k old (life ++ [.captureAudioChunk k payload audioBytes receivedAt])
      ((s.captureAudioChunk strftime k payload audioBytes receivedAt).2.view k) := by
  obtain ⟨haudio, hsame⟩ := h.capture hformat hstarted receivedAt
  have hmarked : Marked k (life ++ [.captureAudioChunk k payload audioBytes receivedAt]) ↔
      Marked k life := by simp [Marked]
  have hwhole : Whole format
      ((captureFor ((s.view k).captures i) payload receivedAt).extend payload audioBytes) := by
    refine ⟨hsame, ?_, by simp [MicroVadCapture.extend, hcaptured.audio]⟩
    show frameSize format ∣ (_ ++ audioBytes).length
    rw [haudio, List.length_append]
    refine Nat.dvd_add ?_ haligned
    cases hopen : (s.view k).captures i with
    | none => simp
    | some c => exact (h.opened i c hopen).aligned
  rw [view_captureAudioChunk hcaptured]
  dsimp only
  generalize hc : (captureFor ((s.view k).captures i) payload receivedAt).extend payload audioBytes =
    capture at hwhole ⊢
  have hcapture : capture.audio = ((s.view k).captures i |>.map (·.audio)).getD [] ++ audioBytes := by
    rw [← hc, ← haudio]
    rfl
  obtain ⟨gw, gp, g, hne, hg, hflat, hw, hp, hgaudio⟩ := (h.conserved i).grow audioBytes
  rw [← hcapture] at hgaudio
  have hopened (j : ℕ) (c : MicroVadCapture)
      (hj : (if j = i then none else (s.view k).captures j) = some c) : Whole format c := by
    split at hj
    · cases hj
    · exact h.opened j c hj
  split
  · split
    · next haccepted =>
      refine ⟨h.accepted.trans hmarked.symm, h.drained, fun hnot => absurd haccepted hnot,
        hopened, h.waiting, fun j => ?_⟩
      rw [chunksOf_concat hcaptured]
      by_cases hj : j = i
      · subst hj
        obtain rfl : gp = [] := by simpa [h.drained haccepted] using hp.symm
        rw [if_pos rfl]
        refine ⟨gw ++ [g], [], [], ?_, ?_, ?_, hp, by simp⟩
        · simpa [or_imp, forall_and, hg] using hne
        · simpa using hflat
        · rw [audioOf_append, hw]
          simp [audioOf, recordingOf, ← hgaudio,
            alignedAudio_of_dvd (hwhole.sameFormat ▸ hwhole.aligned)]
      · rw [if_neg hj, List.append_nil]
        obtain ⟨gw, gp, go, hne, hflat, hw, hp, ho⟩ := h.conserved j
        refine ⟨gw, gp, go, hne, hflat, ?_, hp, by simp [hj, ho]⟩
        rw [audioOf_append, hw]
        simp [audioOf, recordingOf, Ne.symm hj]
    · next haccepted =>
      refine ⟨h.accepted.trans hmarked.symm, fun hyes => absurd hyes haccepted, h.silent,
        hopened, fun p hp => ?_, fun j => ?_⟩
      · rcases List.mem_append.mp hp with hp | hp
        · exact h.waiting p hp
        · rw [List.mem_singleton.mp hp]
          exact hwhole
      · rw [chunksOf_concat hcaptured]
        by_cases hj : j = i
        · subst hj
          rw [if_pos rfl]
          refine ⟨gw, gp ++ [g], [], ?_, ?_, hw, ?_, by simp⟩
          · simpa [or_imp, forall_and, hg, and_assoc] using hne
          · simpa using hflat
          · rw [List.filter_append, List.map_append, hp]
            simp [hgaudio]
        · rw [if_neg hj, List.append_nil]
          obtain ⟨gw, gp, go, hne, hflat, hw, hp, ho⟩ := h.conserved j
          refine ⟨gw, gp, go, hne, hflat, hw, ?_, by simp [hj, ho]⟩
          rw [List.filter_append, List.map_append, hp]
          simp [Ne.symm hj]
  · refine ⟨h.accepted.trans hmarked.symm, h.drained, h.silent, fun j c hj => ?_, h.waiting,
      fun j => ?_⟩
    · dsimp only at hj
      split at hj
      · cases hj
        exact hwhole
      · exact h.opened j c hj
    · rw [chunksOf_concat hcaptured]
      by_cases hj : j = i
      · subst hj
        rw [if_pos rfl]
        refine ⟨gw, gp, [g], ?_, ?_, hw, hp, by simp [hgaudio]⟩
        · simpa [or_imp, forall_and, hg, and_assoc] using hne
        · simpa using hflat
      · rw [if_neg hj, List.append_nil]
        obtain ⟨gw, gp, go, hne, hflat, hw, hp, ho⟩ := h.conserved j
        exact ⟨gw, gp, go, hne, hflat, hw, hp, by simp [hj, ho]⟩

theorem written_eq (h : Life format k old life (s.view k)) : written s k = (s.view k).pending := by
  show (s.view k).pending.filter (·.capture.audio ≠ []) = (s.view k).pending
  rw [List.filter_eq_self]
  intro p hp
  simpa using (h.waiting p hp).audio

theorem audioOf_map {ps : List PendingCapture} (h : ∀ p ∈ ps, Whole format p.capture) (i : ℕ) :
    audioOf i (ps.map (recordingOf strftime k)) =
      (ps.filter (·.microChunkIndex = i)).map (·.capture.audio) := by
  induction ps with
  | nil => rfl
  | cons p ps ih =>
    rw [List.forall_mem_cons] at h
    have hp : (recordingOf strftime k p).audio = p.capture.audio := h.1.recorded
    have hcons := audioOf_append i [recordingOf strftime k p] (ps.map (recordingOf strftime k))
    rw [List.singleton_append, ih h.2] at hcons
    rw [List.map_cons, hcons]
    by_cases hi : p.microChunkIndex = i
    · have hone : audioOf i [recordingOf strftime k p] = [p.capture.audio] := by
        rw [← hp]
        simp [audioOf, recordingOf, hi]
      simp [hone, hi]
    · simp [audioOf, recordingOf, hi]

theorem mark (h : Life format k old life (s.view k))
    (hopen : ∀ p ∈ (s.view k).pending, (s.view k).captures p.microChunkIndex = none) :
    Life format k old (life ++ [.markSessionAccepted k])
      ((s.markSessionAccepted strftime k).2.view k) := by
  have hwritten := h.written_eq
  have hcaptures (i : ℕ) : (if i ∈ (written s k).map (·.microChunkIndex) then none
      else s.captures.get (k, i)) = (s.view k).captures i := by
    split
    · next hi =>
      obtain ⟨p, hp, rfl⟩ := List.mem_map.mp hi
      exact (hopen p (hwritten ▸ hp)).symm
    · rfl
  have hview : (s.markSessionAccepted strftime k).2.view k =
      { captures := (s.view k).captures
        pending := []
        accepted := True
        recordings :=
          (s.view k).recordings ++ (s.view k).pending.map (recordingOf strftime k) } := by
    unfold markSessionAccepted
    dsimp only
    rw [view_flushPendingSession, if_pos rfl]
    ext1
    · funext i
      exact hcaptures i
    · rfl
    · simp
    · rw [← hwritten]
      rfl
  rw [hview]
  refine ⟨by simp [Marked], fun _ => rfl, fun hnot => absurd trivial hnot, h.opened, by simp,
    fun i => ?_⟩
  obtain ⟨gw, gp, go, hne, hflat, hw, hp, ho⟩ := h.conserved i
  refine ⟨gw ++ gp, [], go, by simpa using hne, ?_, ?_, by simp, ho⟩
  · simpa [chunksOf, List.filterMap_append, Call.chunkOf] using hflat
  · rw [audioOf_append, hw, audioOf_map h.waiting, hp]
    simp

/-- What the recordings hold of a session when it is closed. -/
theorem close (h : Life format k old life (s.view k)) (hnodup : s.captures.keys.Nodup)
    (now : WallTime) :
    (Marked k life → ∀ i, ∃ groups : List (List Bytes), (∀ g ∈ groups, g ≠ []) ∧
      groups.flatten = chunksOf k i life ∧
      audioOf i ((s.closeSession strftime k now).view k).recordings =
        audioOf i old ++ groups.map List.flatten) ∧
    (¬Marked k life → ((s.closeSession strftime k now).view k).recordings = old) := by
  rw [← h.accepted]
  refine ⟨fun haccepted i => ?_, fun hnot => ?_⟩
  · obtain ⟨gw, gp, go, hne, hflat, hw, hp, ho⟩ := h.conserved i
    obtain rfl : gp = [] := by simpa [h.drained haccepted] using hp.symm
    refine ⟨gw ++ go, by simpa using hne, by simpa using hflat, ?_⟩
    have hwritten : written s k = [] := h.written_eq.trans (h.drained haccepted)
    have hflushed : (flushed strftime s k).view k = _ := view_flushPendingSession s k k
    rw [if_pos rfl, hwritten] at hflushed
    have hget : (flushed strftime s k).captures.get (k, i) = (s.view k).captures i := by
      have := congrFun (congrArg SessionView.captures hflushed) i
      simpa [view] using this
    have hclosing : audioOf i (closing strftime now (flushed strftime s k).captures
        ((flushed strftime s k).openKeys k)) = go.map List.flatten := by
      unfold audioOf
      rw [filter_closing now _ (fun key hkey => fst_of_mem_openKeys hkey)
        ((nodup_flushed hnodup).filter _), ← ho]
      simp only [mem_openKeys, hget]
      cases hopen : (s.view k).captures i with
      | none => rfl
      | some c =>
        have hc := h.opened i c hopen
        simp [hc.audio, recordingOf, alignedAudio_of_dvd (hc.sameFormat ▸ hc.aligned)]
    rw [view_closeSession_of_accepted now hnodup haccepted, if_pos rfl]
    dsimp only
    rw [audioOf_append, hclosing, hflushed]
    simp [hw]
  · have hclosed : s.closeSession strftime k now = s.discardSession k := if_pos hnot
    rw [hclosed]
    exact h.silent hnot

end Life

/-! ### Names -/

section names

theorem append_sep_inj {sep : Char} {a a' x x' : List Char} (ha : sep ∉ a) (ha' : sep ∉ a')
    (h : a ++ sep :: x = a' ++ sep :: x') : a = a' := by
  induction a generalizing a' with
  | nil =>
    cases a' with
    | nil => rfl
    | cons c a' =>
      obtain ⟨rfl, -⟩ := List.cons.inj h
      simp at ha'
  | cons c a ih =>
    cases a' with
    | nil =>
      obtain ⟨rfl, -⟩ := List.cons.inj h
      simp at ha
    | cons c' a' =>
      obtain ⟨rfl, htail⟩ := List.cons.inj h
      rw [List.mem_cons, not_or] at ha ha'
      rw [ih ha.2 ha'.2 htail]

/-- Names tell times and indices apart. -/
theorem stem_inj (hstrftime : ∀ t, '_' ∉ (strftime t).toList) {k k' : SessionKey} {i i' : ℕ}
    {t t' : WallTime} (h : stem strftime k i t = stem strftime k' i' t') :
    strftime t = strftime t' ∧ i = i' := by
  have hlists := congrArg String.toList h
  simp only [stem, String.toList_ofList, List.intercalate_cons_cons, List.intercalate_singleton,
    List.append_assoc, List.singleton_append] at hlists
  refine ⟨String.toList_injective (append_sep_inj (hstrftime t) (hstrftime t') hlists), ?_⟩
  have hreversed := congrArg List.reverse hlists
  simp only [List.reverse_append, List.reverse_cons, List.append_assoc, List.singleton_append]
    at hreversed
  have hdigits := append_sep_inj (by simpa using underscore_notMem_paddedDigits i)
    (by simpa using underscore_notMem_paddedDigits i') hreversed
  exact paddedDigits_injective (List.reverse_injective hdigits)

/-- The time and the index in the name of a recording. -/
def MicroVadRecording.stamp (strftime : WallTime → String) (r : MicroVadRecording) : String × ℕ :=
  (strftime r.completedAt, r.microVadChunkIndex)

/-- The time and the index in the name that a pending capture would get. -/
def PendingCapture.stamp (strftime : WallTime → String) (p : PendingCapture) : String × ℕ :=
  (strftime p.completedAt, p.microChunkIndex)

/-- All pending captures. -/
def allPending (pending : Dict SessionKey (List PendingCapture)) : Multiset PendingCapture :=
  pending.entries.flatMap (·.2)

/-- The stamps that are taken. -/
def stamps (strftime : WallTime → String) (s : MicroVadChunkRecordingService) :
    Multiset (String × ℕ) :=
  (s.recordings.map (·.stamp strftime) : Multiset (String × ℕ)) +
    (allPending s.pendingCaptures).map (·.stamp strftime)

theorem allPending_erase {pending : Dict SessionKey (List PendingCapture)}
    (hnodup : pending.keys.Nodup) (k : SessionKey) :
    allPending pending = ((pending.get k).getD [] : Multiset PendingCapture) +
      allPending (pending.erase k) := by
  unfold allPending
  cases h : pending.get k with
  | none => simp [Dict.erase_of_get_eq_none h]
  | some ps =>
    rw [Multiset.coe_eq_coe.mpr ((Dict.perm_erase hnodup h).flatMap_right _)]
    simp

theorem allPending_set {pending : Dict SessionKey (List PendingCapture)}
    (hnodup : pending.keys.Nodup) (k : SessionKey) (p : PendingCapture) :
    allPending (pending.set k ((pending.get k).getD [] ++ [p])) = allPending pending + {p} := by
  rw [allPending_erase (Dict.nodup_keys_set hnodup k _) k, Dict.get_set_self, Dict.erase_set,
    allPending_erase hnodup k]
  rw [← Multiset.coe_singleton, Option.getD_some, ← Multiset.coe_add, add_right_comm]

/-- When a call completes captures. -/
def Call.completes : Call → Option WallTime
  | .captureAudioChunk _ payload audioBytes receivedAt =>
    if payload.microVadChunkFinal ∧ payload.microVadChunkIndex.any (Captured payload audioBytes) then
      some receivedAt
    else none
  | .markSessionAccepted _ => none
  | .closeSession _ now => some now

/-- The keys are distinct, and every recording is one that is written of a capture. -/
structure Stored (strftime : WallTime → String) (s : MicroVadChunkRecordingService) : Prop where
  captures : s.captures.keys.Nodup
  pending : s.pendingCaptures.keys.Nodup
  recordings : ∀ r ∈ s.recordings, ∃ k p, r = recordingOf strftime k p

theorem stamps_flushed (hstored : Stored strftime s) (k : SessionKey) :
    stamps strftime (flushed strftime s k) ≤ stamps strftime s ∧
      Stored strftime (flushed strftime s k) := by
  rw [flushed, flushPendingSession_eq]
  refine ⟨?_, nodup_foldl_erase _ hstored.captures,
    hstored.pending.sublist (Dict.keys_erase_sublist _ _), fun r hr => ?_⟩
  · have hmap : ((written s k).map (recordingOf strftime k)).map (·.stamp strftime) =
        (written s k).map (·.stamp strftime) := by
      rw [List.map_map]
      rfl
    have hle : (written s k : Multiset PendingCapture) ≤
        ((s.pendingCaptures.get k).getD [] : Multiset PendingCapture) :=
      Multiset.coe_le.mpr List.filter_sublist.subperm
    have hstamps := Multiset.map_le_map (f := PendingCapture.stamp strftime) hle
    rw [stamps, stamps, allPending_erase hstored.pending k, Multiset.map_add, ← add_assoc]
    refine add_le_add_left ?_ _
    rw [List.map_append, ← Multiset.coe_add, hmap]
    exact add_le_add_right hstamps _
  · rcases List.mem_append.mp hr with hr | hr
    · exact hstored.recordings r hr
    · obtain ⟨p, -, rfl⟩ := List.mem_map.mp hr
      exact ⟨k, p, rfl⟩

theorem exists_recordingOf_of_mem_closing {now : WallTime}
    {captures : Dict (SessionKey × ℕ) MicroVadCapture} {keys : List (SessionKey × ℕ)}
    {r : MicroVadRecording} (h : r ∈ closing strftime now captures keys) :
    ∃ k p, r = recordingOf strftime k p := by
  obtain ⟨key, -, hr⟩ := List.mem_filterMap.mp h
  obtain ⟨capture, -, rfl⟩ := Option.map_eq_some_iff.mp hr
  exact ⟨_, _, rfl⟩

/-- Closing takes one stamp for each index. -/
theorem nodup_stamp_closing (now : WallTime) (captures : Dict (SessionKey × ℕ) MicroVadCapture)
    {keys : List (SessionKey × ℕ)} (hkeys : ∀ key ∈ keys, key.1 = k) (hnodup : keys.Nodup) :
    ((closing strftime now captures keys).map (·.stamp strftime)).Nodup := by
  have hsublist : ((closing strftime now captures keys).map (·.stamp strftime)).Sublist
      (keys.map fun key => (strftime now, key.2)) := by
    unfold closing
    clear hkeys hnodup
    induction keys with
    | nil => exact List.Sublist.refl _
    | cons key keys ih =>
      rw [List.filterMap_cons, List.map_cons]
      cases (captures.get key).filter (·.audio ≠ []) with
      | none => exact ih.cons _
      | some capture => exact ih.cons_cons _
  refine List.Nodup.sublist hsublist (hnodup.map_on fun key hkey key' hkey' heq => ?_)
  obtain ⟨-, hindex⟩ := Prod.mk.inj heq
  exact Prod.ext ((hkeys key hkey).trans (hkeys key' hkey').symm) hindex

/-- A call takes new stamps of its own time only. -/
theorem stamps_step (hstored : Stored strftime s) (call : Call) :
    Stored strftime (step strftime s call) ∧ ∃ new : Multiset (String × ℕ), new.Nodup ∧
      (∀ e ∈ new, ∃ t ∈ call.completes, e.1 = strftime t) ∧
      stamps strftime (step strftime s call) ≤ stamps strftime s + new := by
  have hidle (s' : MicroVadChunkRecordingService)
      (h : Stored strftime s' ∧ stamps strftime s' ≤ stamps strftime s) :
      Stored strftime s' ∧ ∃ new : Multiset (String × ℕ), new.Nodup ∧
        (∀ e ∈ new, ∃ t ∈ call.completes, e.1 = strftime t) ∧
        stamps strftime s' ≤ stamps strftime s + new :=
    ⟨h.1, 0, Multiset.nodup_zero, by simp, by simpa using h.2⟩
  cases call with
  | captureAudioChunk k payload audioBytes receivedAt =>
    rw [show step strftime s (.captureAudioChunk k payload audioBytes receivedAt) =
      (s.captureAudioChunk strftime k payload audioBytes receivedAt).2 from rfl]
    by_cases hcaptured : ∃ i, Captured payload audioBytes i
    · obtain ⟨i, hcaptured⟩ := hcaptured
      rw [captureAudioChunk_of_captured hcaptured]
      dsimp only
      split
      · next hfinal =>
        have hcompletes : (Call.captureAudioChunk k payload audioBytes receivedAt).completes =
            some receivedAt := by
          simp [Call.completes, hfinal, hcaptured.index, hcaptured]
        have herased : (s.captures.erase (k, i)).keys.Nodup :=
          hstored.captures.sublist (Dict.keys_erase_sublist _ _)
        have hnew : ∀ e ∈ ({(strftime receivedAt, i)} : Multiset (String × ℕ)),
            ∃ t ∈ (Call.captureAudioChunk k payload audioBytes receivedAt).completes,
              e.1 = strftime t := by
          intro e he
          rw [Multiset.mem_singleton.mp he]
          exact ⟨receivedAt, hcompletes, rfl⟩
        split
        · refine ⟨⟨herased, hstored.pending, fun r hr => ?_⟩, {(strftime receivedAt, i)},
            Multiset.nodup_singleton _, hnew, ?_⟩
          · rcases List.mem_append.mp hr with hr | hr
            · exact hstored.recordings r hr
            · exact ⟨k, _, List.mem_singleton.mp hr⟩
          · refine le_of_eq ?_
            rw [stamps, stamps, List.map_append, ← Multiset.coe_add, add_right_comm]
            rfl
        · refine ⟨⟨herased, Dict.nodup_keys_set hstored.pending _ _, hstored.recordings⟩,
            {(strftime receivedAt, i)}, Multiset.nodup_singleton _, hnew, le_of_eq ?_⟩
          rw [stamps, stamps, allPending_set hstored.pending, Multiset.map_add, add_assoc]
          rfl
      · exact hidle _ ⟨⟨Dict.nodup_keys_set hstored.captures _ _, hstored.pending,
          hstored.recordings⟩, le_rfl⟩
    · rw [captureAudioChunk_of_not (by simpa using hcaptured)]
      exact hidle s ⟨hstored, le_rfl⟩
  | markSessionAccepted k =>
    have hmarked : Stored strftime { s with acceptedSessions := s.acceptedSessions.insert k } :=
      ⟨hstored.captures, hstored.pending, hstored.recordings⟩
    obtain ⟨hle, hstored'⟩ := stamps_flushed hmarked k
    exact hidle _ ⟨hstored', hle⟩
  | closeSession k now =>
    rw [show step strftime s (.closeSession k now) = s.closeSession strftime k now from rfl]
    by_cases haccepted : k ∈ s.acceptedSessions
    · obtain ⟨hle, hstored'⟩ := stamps_flushed hstored k
      rw [closeSession_of_accepted now hstored.captures haccepted]
      refine ⟨⟨nodup_foldl_erase_keys _ hstored'.captures, hstored'.pending, fun r hr => ?_⟩,
        ((closing strftime now (flushed strftime s k).captures
          ((flushed strftime s k).openKeys k)).map (·.stamp strftime) : List (String × ℕ)),
        ?_, fun e he => ⟨now, rfl, ?_⟩, ?_⟩
      · rcases List.mem_append.mp hr with hr | hr
        · exact hstored'.recordings r hr
        · exact exists_recordingOf_of_mem_closing hr
      · exact Multiset.coe_nodup.mpr (nodup_stamp_closing now _
          (fun key hkey => fst_of_mem_openKeys hkey) (hstored'.captures.filter _))
      · obtain ⟨r, hr, rfl⟩ := List.mem_map.mp (Multiset.mem_coe.mp he)
        obtain ⟨key, -, hr⟩ := List.mem_filterMap.mp hr
        obtain ⟨capture, -, rfl⟩ := Option.map_eq_some_iff.mp hr
        rfl
      · refine le_trans (le_of_eq ?_) (add_le_add_left hle _)
        rw [stamps, stamps, List.map_append, ← Multiset.coe_add, add_right_comm]
    · have hclosed : s.closeSession strftime k now = s.discardSession k := if_pos haccepted
      rw [hclosed]
      refine hidle _ ⟨⟨hstored.captures.sublist (Dict.keys_filter_sublist _ _),
        hstored.pending.sublist (Dict.keys_erase_sublist _ _), hstored.recordings⟩, ?_⟩
      rw [stamps, stamps, allPending_erase hstored.pending k, Multiset.map_add]
      exact add_le_add_right (Multiset.le_add_left _ _) _

/-- Recordings of calls that complete at different times have different names. -/
theorem nodup_names (hstrftime : ∀ t, '_' ∉ (strftime t).toList) {calls : List Call}
    (htimes : ((calls.filterMap (·.completes)).map strftime).Nodup) :
    (((run (step strftime) {} calls).recordings).map (·.recordingId)).Nodup := by
  have hrun : Stored strftime (run (step strftime) {} calls) ∧
      (stamps strftime (run (step strftime) {} calls)).Nodup ∧
      ∀ e ∈ stamps strftime (run (step strftime) {} calls),
        e.1 ∈ (calls.filterMap (·.completes)).map strftime := by
    induction calls using List.reverseRecOn with
    | nil =>
      have hnone : stamps strftime {} = 0 := rfl
      refine ⟨⟨List.nodup_nil, List.nodup_nil, by simp⟩, ?_, ?_⟩
      · rw [run_nil, hnone]
        exact Multiset.nodup_zero
      · rw [run_nil, hnone]
        simp
    | append_singleton calls call ih =>
      rw [List.filterMap_append, List.map_append, List.nodup_append] at htimes
      obtain ⟨hstored, hnodup, htaken⟩ := ih htimes.1
      obtain ⟨hstored', new, hnew, htime, hle⟩ := stamps_step hstored call
      rw [run_append]
      refine ⟨hstored', Multiset.nodup_of_le hle (Multiset.nodup_add.mpr ⟨hnodup, hnew, ?_⟩),
        fun e he => ?_⟩
      · rw [Multiset.disjoint_left]
        intro e he he'
        obtain ⟨t, ht, heq⟩ := htime e he'
        refine htimes.2.2 _ (htaken e he) _ ?_ rfl
        rw [heq]
        exact List.mem_map_of_mem (by simpa using ht)
      · rw [List.filterMap_append, List.map_append, List.mem_append]
        rcases Multiset.mem_add.mp (Multiset.mem_of_le hle he) with he | he
        · exact .inl (htaken e he)
        · obtain ⟨t, ht, heq⟩ := htime e he
          rw [heq]
          exact .inr (List.mem_map_of_mem (by simpa using ht))
  obtain ⟨hstored, hnodup, -⟩ := hrun
  have hstamps := Multiset.coe_nodup.mp (Multiset.nodup_of_le (Multiset.le_add_right _ _) hnodup)
  rw [List.Nodup, List.pairwise_map] at hstamps ⊢
  refine hstamps.imp_of_mem fun {r r'} hr hr' hne heq => hne ?_
  obtain ⟨k, p, rfl⟩ := hstored.recordings r hr
  obtain ⟨k', p', rfl⟩ := hstored.recordings r' hr'
  obtain ⟨htime, hindex⟩ := stem_inj hstrftime heq
  exact Prod.ext htime hindex

end names

/-! ### Every run -/

/-- The recorder after the calls. -/
def recorderAfter (strftime : WallTime → String) (calls : List Call) :
    MicroVadChunkRecordingService := run (step strftime) {} calls

/-- The calls that follow others live up to one format, whole frames and marked starts, and
nothing of the session is open beside a pending capture of its index when it is accepted. -/
structure Orderly (strftime : WallTime → String) (format : VoiceAudioFormat) (k : SessionKey)
    (before life : List Call) : Prop where
  chunks : ∀ earlier payload audioBytes receivedAt later,
    life = earlier ++ .captureAudioChunk k payload audioBytes receivedAt :: later →
    ∀ i, Captured payload audioBytes i → payload.audioFormat = format ∧
      frameSize format ∣ audioBytes.length ∧
      (payload.microVadChunkStarted = true → chunksOf k i earlier = [])
  accepts : ∀ earlier later, life = earlier ++ .markSessionAccepted k :: later →
    ∀ p ∈ ((recorderAfter strftime (before ++ earlier)).view k).pending,
      ((recorderAfter strftime (before ++ earlier)).view k).captures p.microChunkIndex = none

theorem recorderAfter_concat (calls : List Call) (call : Call) :
    recorderAfter strftime (calls ++ [call]) = step strftime (recorderAfter strftime calls) call := by
  simp [recorderAfter, run_append]

theorem nodup_recorderAfter (calls : List Call) :
    (recorderAfter strftime calls).captures.keys.Nodup := by
  induction calls using List.reverseRecOn with
  | nil => exact List.nodup_nil
  | append_singleton calls call ih =>
    rw [recorderAfter_concat]
    exact nodup_step ih call

theorem Orderly.life {format : VoiceAudioFormat} {before life : List Call}
    (h : Orderly strftime format k before life)
    (hcleared : ((recorderAfter strftime before).view k).Cleared)
    (hopen : ∀ now, .closeSession k now ∉ life) :
    Life format k ((recorderAfter strftime before).view k).recordings life
      ((recorderAfter strftime (before ++ life)).view k) := by
  induction life using List.reverseRecOn with
  | nil =>
    rw [List.append_nil]
    exact Life.start hcleared
  | append_singleton life call ih =>
    have hlife := ih
      ⟨fun earlier payload audioBytes receivedAt later heq =>
        h.chunks earlier payload audioBytes receivedAt (later ++ [call]) (by simp [heq]),
        fun earlier later heq => h.accepts earlier (later ++ [call]) (by simp [heq])⟩
      (fun now hmem => hopen now (List.mem_append_left _ hmem))
    have hnodup : (recorderAfter strftime (before ++ life)).captures.keys.Nodup :=
      nodup_recorderAfter _
    rw [← List.append_assoc, recorderAfter_concat]
    by_cases hsession : call.session = k
    · cases call with
      | captureAudioChunk session payload audioBytes receivedAt =>
        obtain rfl : session = k := hsession
        by_cases hcaptured : ∃ i, Captured payload audioBytes i
        · obtain ⟨i, hcaptured⟩ := hcaptured
          obtain ⟨hformat, haligned, hstarted⟩ :=
            h.chunks life payload audioBytes receivedAt [] rfl i hcaptured
          exact hlife.chunk hcaptured hformat haligned hstarted receivedAt
        · rw [show step strftime _ (.captureAudioChunk session payload audioBytes receivedAt) = _
            from captureAudioChunk_of_not (by simpa using hcaptured) receivedAt]
          refine hlife.idle (by simp) fun i => ?_
          simp only [not_exists] at hcaptured
          simp [chunksOf, Call.chunkOf, hcaptured i]
      | markSessionAccepted session =>
        obtain rfl : session = k := hsession
        exact hlife.mark (h.accepts life [] rfl)
      | closeSession session now =>
        obtain rfl : session = k := hsession
        exact absurd (by simp) (hopen now)
    · rw [view_step_of_ne hnodup hsession]
      refine hlife.idle (fun heq => hsession (by rw [heq]; rfl)) fun i => ?_
      cases call with
      | captureAudioChunk session payload audioBytes receivedAt =>
        have hne : session ≠ k := hsession
        simp [chunksOf, Call.chunkOf, hne]
      | markSessionAccepted session => rfl
      | closeSession session now => rfl

/-- **Micro-VAD audio is written for accepted sessions.** -/
theorem accepted_audio_written (strftime : WallTime → String)
    (hstrftime : ∀ t, '_' ∉ (strftime t).toList) (format : VoiceAudioFormat) (k : SessionKey)
    (before life : List Call) (now : WallTime)
    (hbefore : before = [] ∨ ∃ earlier now', before = earlier ++ [.closeSession k now'])
    (hopen : ∀ now', .closeSession k now' ∉ life)
    (horderly : Orderly strftime format k before life)
    (htimes : (((before ++ life ++ [Call.closeSession k now]).filterMap Call.completes).map
      strftime).Nodup) :
    let v := (recorderAfter strftime before).view k
    let closed := recorderAfter strftime (before ++ life ++ [.closeSession k now])
    (Marked k life → ∀ i, ∃ groups : List (List Bytes), (∀ g ∈ groups, g ≠ []) ∧
      groups.flatten = chunksOf k i life ∧
      audioOf i (closed.view k).recordings = audioOf i v.recordings ++ groups.map List.flatten) ∧
    (¬Marked k life → (closed.view k).recordings = v.recordings) ∧
    (closed.view k).Cleared ∧ (closed.recordings.map (·.recordingId)).Nodup := by
  have hcleared : ((recorderAfter strftime before).view k).Cleared := by
    rcases hbefore with rfl | ⟨earlier, now', rfl⟩
    · exact ⟨fun _ => rfl, rfl, by simp [view, recorderAfter]⟩
    · rw [recorderAfter_concat]
      exact cleared_closeSession now' (nodup_recorderAfter _)
  have hlife := horderly.life hcleared hopen
  obtain ⟨hwritten, hsilent⟩ := hlife.close (nodup_recorderAfter _) now
  refine ⟨fun hmarked i => ?_, fun hnot => ?_, ?_, nodup_names hstrftime htimes⟩
  · rw [recorderAfter_concat]
    exact hwritten hmarked i
  · rw [recorderAfter_concat]
    exact hsilent hnot
  · rw [recorderAfter_concat]
    exact cleared_closeSession now (nodup_recorderAfter _)

section kitchen

private def kitchenSession : SessionKey := ("kitchen", "s")

/-- The names of the instants of the runs: what their own clock shows. -/
private def kitchenTime (t : WallTime) : String :=
  if t.wall = 63923122500000000 then "20260823T225500000000Z"
  else if t.wall = 63923122501000000 then "20260823T225501000000Z"
  else ""

private def kitchenChunk (index : Option ℕ) (started final : Bool) (audioBytes : Bytes)
    (receivedAt : WallTime) : Call :=
  .captureAudioChunk kitchenSession
    { chunkIndex := 0, microVadChunkIndex := index, microVadChunkStarted := started,
      microVadChunkFinal := final } audioBytes receivedAt

private def first : WallTime := ⟨63923122500000000, some 0⟩

private def second : WallTime := ⟨63923122501000000, some 0⟩

/-- A session that is accepted between the two chunks of an index. -/
theorem accepted_audio_written_kitchen :
    ((recorderAfter kitchenTime [kitchenChunk (some 0) true false [1, 2] first,
      .markSessionAccepted kitchenSession, kitchenChunk (some 0) false true [3, 4] first,
      .closeSession kitchenSession second]).view kitchenSession).Cleared := by
  refine (accepted_audio_written kitchenTime (fun t => ?_) {} kitchenSession []
    [kitchenChunk (some 0) true false [1, 2] first, .markSessionAccepted kitchenSession,
      kitchenChunk (some 0) false true [3, 4] first] second (.inl rfl) (by simp [kitchenChunk])
    ⟨?_, ?_⟩ (by decide +kernel)).2.2.1
  · unfold kitchenTime
    split
    · decide
    · split <;> decide
  · intro earlier payload audioBytes receivedAt later heq i hcaptured
    rcases earlier with _ | ⟨_, _ | ⟨_, _ | ⟨_, earlier⟩⟩⟩
    · obtain ⟨⟨rfl, rfl, rfl⟩, rfl⟩ : (_ ∧ _ ∧ _) ∧ _ := by simpa [kitchenChunk] using heq
      exact ⟨rfl, by decide, fun _ => rfl⟩
    · simp [kitchenChunk] at heq
    · obtain ⟨rfl, rfl, ⟨rfl, rfl, rfl⟩, rfl⟩ : _ ∧ _ ∧ (_ ∧ _ ∧ _) ∧ _ := by
        simpa [kitchenChunk] using heq
      exact ⟨rfl, by decide, by simp⟩
    · simp at heq
  · intro earlier later heq
    rcases earlier with _ | ⟨_, _ | ⟨_, _ | ⟨_, earlier⟩⟩⟩
    · simp [kitchenChunk] at heq
    · obtain ⟨rfl, -⟩ : _ ∧ _ := by simpa using heq
      decide
    · simp [kitchenChunk] at heq
    · simp at heq

/-- Two recordings that are completed at the same time of two clocks. -/
private def twoClocks : List MicroVadRecording :=
  (recorderAfter kitchenTime [.markSessionAccepted kitchenSession,
    kitchenChunk (some 0) true true [1, 2] first,
    kitchenChunk (some 0) false true [3, 4] { first with offset := some 3600000000 }]).recordings

/-- A chunk without an index, the end of a broken frame, the chunk of a session that is opened again
after it was accepted, the chunk of an index that follows the last one before the session is
accepted, and the first of two recordings whose times read alike are in no file. -/
theorem chunks_lost :
    (recorderAfter kitchenTime [.markSessionAccepted kitchenSession,
      kitchenChunk none true true [1, 2] first, .closeSession kitchenSession second]).recordings = [] ∧
    (recorderAfter kitchenTime [.markSessionAccepted kitchenSession,
      kitchenChunk (some 0) true true [1, 2, 3] first,
      .closeSession kitchenSession second]).recordings.map (·.audio) = [[1, 2]] ∧
    (recorderAfter kitchenTime [.markSessionAccepted kitchenSession, .closeSession kitchenSession first,
      kitchenChunk (some 0) true false [1, 2] first,
      .closeSession kitchenSession second]).recordings = [] ∧
    (recorderAfter kitchenTime [kitchenChunk (some 0) true true [1, 2] first,
      kitchenChunk (some 0) false false [3, 4] first, .markSessionAccepted kitchenSession,
      .closeSession kitchenSession second]).recordings.map (·.audio) = [[1, 2]] ∧
    twoClocks.map (·.audio) = [[1, 2], [3, 4]] ∧
    (twoClocks.map (·.recordingId)).dedup.length = 1 := by
  decide +kernel

end kitchen

end HexeVoice.Recordings
