import HexeVoice.Placement.Calibration
import Mathlib

/-!
# Lifetimes of calibration windows and samples

## The model

`keepsLifetimes` says of a call what the promises about windows and samples rest on: that it
cancels no window whose end has passed, and evicts no window whose samples are still to be kept
for other than three days.

## What is proved

**`lifetimes_kept`**: in a run of such calls a window leaves its active status at most once, and
a sample is listed as long as its window says. **`completed_window_cancelled`**: a completed
window can be cancelled, and an evicted window takes its days with it.
-/

namespace HexeVoice.Placement

open HexeVoice.Library

variable {μ ν : Type} {sanitizeMetrics : ν → Except String μ} {s : VoicePlacementCalibrationStore μ}
variable {now : ℤ} {w : CalibrationWindow}

/-! ### What becomes of a window -/

/-- What may have become of a window from one time to another: only an active one changes its
status, to completed when its end has passed and to cancelled while it has not. -/
structure WindowLater (since clock : ℤ) (w w' : CalibrationWindow) : Prop where
  calibrationId : w'.calibrationId = w.calibrationId
  endsAt : w'.endsAt = w.endsAt
  retentionDays : w'.retentionDays = w.retentionDays
  settled : w.status ≠ .active → w'.status = w.status
  completed : w.status = .active → w'.status = .completed → w.endsAt ≤ clock
  cancelled : w.status = .active → w'.status = .cancelled → since < w.endsAt

namespace WindowLater

variable {since now now' clock : ℤ} {w w' w'' : CalibrationWindow}

theorem of_status (hid : w'.calibrationId = w.calibrationId) (hend : w'.endsAt = w.endsAt)
    (hdays : w'.retentionDays = w.retentionDays) (hstatus : w'.status = w.status) :
    WindowLater since clock w w' :=
  ⟨hid, hend, hdays, fun _ => hstatus,
    fun hactive hleft => absurd (hstatus.symm.trans hleft ▸ hactive) (by simp),
    fun hactive hleft => absurd (hstatus.symm.trans hleft ▸ hactive) (by simp)⟩

theorem refl (since clock : ℤ) (w : CalibrationWindow) : WindowLater since clock w w :=
  of_status rfl rfl rfl rfl

theorem trans (h : WindowLater since now w w') (h' : WindowLater now' clock w' w'')
    (hsince : since ≤ now') (hclock : now ≤ clock) : WindowLater since clock w w'' := by
  refine ⟨h'.calibrationId.trans h.calibrationId, h'.endsAt.trans h.endsAt,
    h'.retentionDays.trans h.retentionDays, fun hnot => ?_, fun hactive hleft => ?_,
    fun hactive hleft => ?_⟩
  · have hstill := h.settled hnot
    exact (h'.settled (hstill ▸ hnot)).trans hstill
  · by_cases hactive' : w'.status = .active
    · rw [← h.endsAt]
      exact h'.completed hactive' hleft
    · exact (h.completed hactive ((h'.settled hactive').symm.trans hleft)).trans hclock
  · by_cases hactive' : w'.status = .active
    · have hend := h'.cancelled hactive' hleft
      rw [h.endsAt] at hend
      omega
    · exact h.cancelled hactive ((h'.settled hactive').symm.trans hleft)

theorem complete (now : ℤ) (w : CalibrationWindow) : WindowLater now now w (w.complete now) := by
  unfold CalibrationWindow.complete
  split
  · next hends =>
    exact ⟨rfl, rfl, rfl, fun hnot => absurd hends.1 hnot, fun _ _ => hends.2, fun _ h => nomatch h⟩
  · exact refl now now w

theorem cancel (h : w.status = .cancelled ∨ w.status = .active ∧ now < w.endsAt) :
    WindowLater now now w (w.cancel now) := by
  rcases h with hcancelled | ⟨hactive, hend⟩
  · exact of_status rfl rfl rfl hcancelled.symm
  · exact ⟨rfl, rfl, rfl, fun hnot => absurd hactive hnot, (fun _ h => nomatch h), fun _ _ => hend⟩

theorem sampled (w : CalibrationWindow) (observedAt : ℤ) :
    WindowLater now now w (w.sampled observedAt) :=
  of_status rfl rfl rfl rfl

end WindowLater

/-! ### The invariant -/

/-- The ids in the store were drawn for it, and those of windows are distinct. -/
structure Sound (s : VoicePlacementCalibrationStore μ) : Prop where
  nodup : (s.windows.map (·.calibrationId)).Nodup
  windows : ∀ w ∈ s.windows, (∃ hex ∈ s.drawn, w.calibrationId = "placement-cal-" ++ hex) ∧
    1 ≤ w.retentionDays
  samples : ∀ sample ∈ s.samples, (∃ hex ∈ s.drawn, sample.sampleId = "placement-sample-" ++ hex) ∧
    ∃ hex ∈ s.drawn, sample.calibrationId = "placement-cal-" ++ hex

theorem sound_init (μ : Type) (maxWindows maxSamples : ℕ) (clock : ℤ) :
    Sound (VoicePlacementCalibrationStore.init μ maxWindows maxSamples clock) :=
  ⟨List.nodup_nil, by rintro w ⟨⟩, by rintro sample ⟨⟩⟩

/-- The call comes no earlier than the last one, and `uuid4` draws what it has not drawn yet. -/
def Timely (s : VoicePlacementCalibrationStore μ) (input : Input ν) : Prop :=
  s.clock ≤ input.now ∧ input.hex ∉ s.drawn

instance (s : VoicePlacementCalibrationStore μ) (input : Input ν) : Decidable (Timely s input) :=
  inferInstanceAs (Decidable (_ ∧ _))

/-- The call cancels no completed window and no active one whose end has passed, and evicts none
with samples that are kept for other than three days, unless they are past it either way. -/
def keepsLifetimes (s : VoicePlacementCalibrationStore μ) (input : Input ν) : Bool :=
  match input.call with
  | .cancelWindow calibrationId =>
    s.windows.all fun w =>
      w.calibrationId ≠ strip calibrationId ||
        (w.status = .cancelled || (w.status = .active && input.now < w.endsAt))
  | .startWindow request =>
    strip request.endpointId = "" || strip request.room = "" ||
      (s.windows.drop (s.maxWindows - 1)).all fun w =>
        s.samples.all fun sample =>
          sample.calibrationId ≠ w.calibrationId || w.retentionDays = 3 ||
            sample.observedAt + max w.retentionDays 3 * day < input.now
  | _ => true

theorem append_injective {p a b : String} (h : p ++ a = p ++ b) : a = b := by
  have hlist := congrArg String.toList h
  rw [String.toList_append, String.toList_append] at hlist
  exact String.toList_injective (List.append_cancel_left hlist)

/-- A new window has a new id. -/
theorem Sound.newWindow_ne (h : Sound s) {input : Input ν} (htimely : Timely s input)
    (request : WindowRequest) :
    ∀ w ∈ s.windows, w.calibrationId ≠ (newWindow request input.hex input.now).calibrationId := by
  rintro w hw heq
  obtain ⟨⟨hex, hdrawn, hid⟩, -⟩ := h.windows w hw
  exact htimely.2 (append_injective (hid.symm.trans heq) ▸ hdrawn)

/-! ### What the fallible operations do -/

theorem startWindow_eq {request : WindowRequest} {hex : String}
    {window : CalibrationWindow} {s' : VoicePlacementCalibrationStore μ}
    (h : s.startWindow request hex now = .ok (window, s')) :
    strip request.endpointId ≠ "" ∧ strip request.room ≠ "" ∧ window = newWindow request hex now ∧
      s' = (s.completeExpiredWindows now).addWindow window := by
  unfold VoicePlacementCalibrationStore.startWindow at h
  have hendpoint : (newWindow request hex now).endpointId = strip request.endpointId := rfl
  have hroom : (newWindow request hex now).room = strip request.room := rfl
  rw [← hendpoint, ← hroom]
  generalize newWindow request hex now = opened at h ⊢
  dsimp only at h
  split at h
  · cases h
  · next hendpoint =>
    split at h
    · cases h
    · next hroom =>
      simp only [Except.ok.injEq, Prod.mk.injEq] at h
      obtain ⟨rfl, rfl⟩ := h
      exact ⟨hendpoint, hroom, rfl, rfl⟩

/-- A sample is recorded of an active window, and comes before the others. -/
theorem recordSample_eq {calibrationId : String} {metrics : ν} {observedAt : Option ℤ} {hex : String}
    {sample : CalibrationSample μ} {s' : VoicePlacementCalibrationStore μ}
    (h : s.recordSample sanitizeMetrics calibrationId metrics observedAt hex now =
      .ok (sample, s')) :
    ∃ window kept, (s.completeExpiredWindows now).find (strip calibrationId) = some window ∧
      window.status = .active ∧
      sample = newSample window (strip calibrationId) kept (observedAt.getD now) hex now ∧
      s' = ((s.completeExpiredWindows now).addSample window sample).cleanup now := by
  unfold VoicePlacementCalibrationStore.recordSample at h
  generalize strip calibrationId = target at h ⊢
  dsimp only at h
  split at h
  · cases h
  split at h
  · cases h
  next window hfind =>
  split at h
  · cases h
  next hactive =>
  split at h
  · cases h
  next kept hmetrics =>
  simp only [Except.ok.injEq, Prod.mk.injEq] at h
  obtain ⟨rfl, rfl⟩ := h
  exact ⟨window, kept, hfind, by simpa using hactive, rfl, rfl⟩

/-! ### What a call does to the windows -/

/-- Every window of the store later, and perhaps a new one before them. -/
inductive WindowsAfter (s : VoicePlacementCalibrationStore μ) (input : Input ν) :
    List CalibrationWindow → Prop
  | each (f : CalibrationWindow → CalibrationWindow)
      (hf : ∀ w ∈ s.windows, WindowLater input.now input.now w (f w)) :
      WindowsAfter s input (s.windows.map f)
  | opened (request : WindowRequest) (hcall : input.call = .startWindow request)
      (hendpoint : strip request.endpointId ≠ "") (hroom : strip request.room ≠ "")
      (f : CalibrationWindow → CalibrationWindow)
      (hf : ∀ w ∈ s.windows, WindowLater input.now input.now w (f w)) :
      WindowsAfter s input
        ((newWindow request input.hex input.now :: s.windows.map f).take s.maxWindows)

theorem windowsAfter_same (s : VoicePlacementCalibrationStore μ) (input : Input ν) :
    WindowsAfter s input s.windows := by
  have h : WindowsAfter s input (s.windows.map id) := .each id fun w _ => .refl _ _ w
  rwa [List.map_id] at h

theorem windowsAfter_cleanup (s : VoicePlacementCalibrationStore μ) (input : Input ν) :
    WindowsAfter s input (s.cleanup input.now).windows :=
  .each _ fun w _ => .complete _ w

theorem windowsAfter_perform (sanitizeMetrics : ν → Except String μ) (h : Sound s) {input : Input ν} (htimely : Timely s input)
    (hkeeps : keepsLifetimes s input = true) :
    WindowsAfter s input (perform sanitizeMetrics s input).windows := by
  unfold perform
  cases hcall : input.call with
  | status => exact windowsAfter_cleanup s input
  | cleanup => exact windowsAfter_cleanup s input
  | getWindow calibrationId =>
    dsimp only [VoicePlacementCalibrationStore.getWindow]
    split
    · exact windowsAfter_same s input
    · exact windowsAfter_cleanup s input
  | listSamples calibrationId limit =>
    dsimp only [VoicePlacementCalibrationStore.listSamples]
    split
    · exact windowsAfter_same s input
    · exact windowsAfter_cleanup s input
  | cancelWindow calibrationId =>
    dsimp only [VoicePlacementCalibrationStore.cancelWindow]
    split
    · exact windowsAfter_same s input
    · refine .each _ fun w hw => ?_
      simp only [keepsLifetimes, hcall, List.all_eq_true] at hkeeps
      have hwindow := hkeeps w hw
      split
      · next hid =>
        simp only [hid, ne_eq, not_true_eq_false, decide_false, Bool.false_or, Bool.and_eq_true,
          Bool.or_eq_true, decide_eq_true_eq] at hwindow
        exact .cancel hwindow
      · exact .refl _ _ w
  | startWindow request =>
    dsimp only
    split
    · next window s' hstart =>
      obtain ⟨hendpoint, hroom, rfl, rfl⟩ := startWindow_eq hstart
      have hfilter : (s.windows.map (·.complete input.now)).filter (fun stored =>
          stored.calibrationId ≠ (newWindow request input.hex input.now).calibrationId) =
            s.windows.map (·.complete input.now) := by
        refine List.filter_eq_self.mpr fun w' hw' => ?_
        obtain ⟨w, hw, rfl⟩ := List.mem_map.mp hw'
        rw [(WindowLater.complete input.now w).calibrationId]
        simpa using h.newWindow_ne htimely request w hw
      dsimp only [VoicePlacementCalibrationStore.addWindow,
        VoicePlacementCalibrationStore.completeExpiredWindows]
      rw [hfilter]
      exact .opened request hcall hendpoint hroom _ fun w _ => .complete _ w
    · exact windowsAfter_same s input
  | recordSample calibrationId metrics observedAt =>
    dsimp only
    split
    · next sample s' hrecord =>
      obtain ⟨window, kept, hfind, -, hsample, rfl⟩ := recordSample_eq hrecord
      have htarget : sample.calibrationId = strip calibrationId := by rw [hsample]; rfl
      rw [← htarget] at hfind
      have hid : window.calibrationId = sample.calibrationId := by simpa using List.find?_some hfind
      obtain ⟨w₀, hw₀, rfl⟩ := List.mem_map.mp (List.mem_of_find?_eq_some hfind)
      have hwindows : (((s.completeExpiredWindows input.now).addSample (w₀.complete input.now)
          sample).cleanup input.now).windows = s.windows.map fun w =>
            (if (w.complete input.now).calibrationId = sample.calibrationId then
              (w₀.complete input.now).sampled sample.observedAt
            else w.complete input.now).complete input.now := by
        simp only [VoicePlacementCalibrationStore.cleanup, VoicePlacementCalibrationStore.addSample,
          VoicePlacementCalibrationStore.completeExpiredWindows, List.map_map]
        rfl
      rw [hwindows]
      refine .each _ fun w hw => ?_
      split
      · next hsame =>
        -- the stored window that was found is the one of this id
        obtain rfl : w = w₀ := by
          refine List.inj_on_of_nodup_map h.nodup hw hw₀ ?_
          rw [← (WindowLater.complete input.now w).calibrationId, hsame, ← hid]
          exact (WindowLater.complete input.now w₀).calibrationId
        exact ((WindowLater.complete _ w).trans (.sampled _ _) le_rfl le_rfl).trans (.complete _ _)
          le_rfl le_rfl
      · exact (WindowLater.complete _ w).trans (.complete _ _) le_rfl le_rfl
    · exact windowsAfter_same s input

/-- A window of the store after a call is new, or what became of one of before. -/
theorem WindowsAfter.mem {input : Input ν} {windows : List CalibrationWindow}
    (h : WindowsAfter s input windows) {w' : CalibrationWindow} (hw' : w' ∈ windows) :
    w'.calibrationId = "placement-cal-" ++ input.hex ∧ 1 ≤ w'.retentionDays ∨
      ∃ w ∈ s.windows, WindowLater input.now input.now w w' := by
  cases h with
  | each f hf =>
    obtain ⟨w, hw, rfl⟩ := List.mem_map.mp hw'
    exact .inr ⟨w, hw, hf w hw⟩
  | opened request _ _ _ f hf =>
    rcases List.mem_cons.mp (List.mem_of_mem_take hw') with rfl | hw'
    · refine .inl ⟨rfl, ?_⟩
      simp only [newWindow]
      omega
    · obtain ⟨w, hw, rfl⟩ := List.mem_map.mp hw'
      exact .inr ⟨w, hw, hf w hw⟩

theorem WindowsAfter.nodup (hsound : Sound s) {input : Input ν} (htimely : Timely s input)
    {windows : List CalibrationWindow} (h : WindowsAfter s input windows) :
    (windows.map (·.calibrationId)).Nodup := by
  have hids : ∀ f : CalibrationWindow → CalibrationWindow,
      (∀ w ∈ s.windows, WindowLater input.now input.now w (f w)) →
        (s.windows.map f).map (·.calibrationId) = s.windows.map (·.calibrationId) := by
    intro f hf
    rw [List.map_map]
    exact List.map_congr_left fun w hw => (hf w hw).calibrationId
  cases h with
  | each f hf =>
    rw [hids f hf]
    exact hsound.nodup
  | opened request _ _ _ f hf =>
    rw [List.map_take]
    refine (List.take_sublist _ _).nodup ?_
    rw [List.map_cons, hids f hf]
    refine List.nodup_cons.mpr ⟨fun hmem => ?_, hsound.nodup⟩
    obtain ⟨w, hw, heq⟩ := List.mem_map.mp hmem
    exact hsound.newWindow_ne htimely request w hw heq

/-! ### What a call does to the samples -/

/-- The sample that the call records, if it does. -/
def recordedBy (sanitizeMetrics : ν → Except String μ) (s : VoicePlacementCalibrationStore μ)
    (input : Input ν) : Option (CalibrationSample μ) :=
  match input.call with
  | .recordSample calibrationId metrics observedAt =>
    match s.recordSample sanitizeMetrics calibrationId metrics observedAt input.hex input.now with
    | .ok (sample, _) => some sample
    | .error _ => none
  | _ => none

theorem retains_congr {t : VoicePlacementCalibrationStore μ} (h : t.windows = s.windows) (now : ℤ) :
    t.retains now = s.retains now := by
  funext sample
  unfold VoicePlacementCalibrationStore.retains VoicePlacementCalibrationStore.retentionDays
  rw [h]

/-- The samples and the one recorded before them. -/
def withRecorded (recorded : Option (CalibrationSample μ)) (s : VoicePlacementCalibrationStore μ) :
    List (CalibrationSample μ) :=
  match recorded with
  | some sample => (sample :: s.samples).take s.maxSamples
  | none => s.samples

theorem samples_cleanup (t : VoicePlacementCalibrationStore μ) (now : ℤ) :
    (t.cleanup now).samples = t.samples.filter ((t.cleanup now).retains now) := by
  have hretains : (t.cleanup now).retains now = (t.completeExpiredWindows now).retains now :=
    retains_congr rfl now
  rw [hretains]
  rfl

/-- Of the samples and the one recorded, none is dropped that the windows retain. -/
theorem samples_perform (sanitizeMetrics : ν → Except String μ)
    (s : VoicePlacementCalibrationStore μ) (input : Input ν) :
    ∃ p : CalibrationSample μ → Bool,
      (perform sanitizeMetrics s input).samples =
        (withRecorded (recordedBy sanitizeMetrics s input) s).filter p ∧
      ∀ sample, p sample = false →
        (perform sanitizeMetrics s input).retains input.now sample = false := by
  have hsame : ∃ p : CalibrationSample μ → Bool, s.samples = s.samples.filter p ∧
      ∀ sample, p sample = false → False :=
    ⟨fun _ => true, (List.filter_eq_self.mpr fun _ _ => rfl).symm, fun _ h => nomatch h⟩
  have hsame (t : VoicePlacementCalibrationStore μ) : ∃ p : CalibrationSample μ → Bool,
      s.samples = s.samples.filter p ∧
        ∀ sample, p sample = false → t.retains input.now sample = false :=
    hsame.imp fun p h => ⟨h.1, fun sample hp => (h.2 sample hp).elim⟩
  have hcleanup := samples_cleanup s input.now
  unfold perform recordedBy
  cases hcall : input.call with
  | status | cleanup => exact ⟨_, hcleanup, fun _ h => h⟩
  | getWindow calibrationId =>
    dsimp only [VoicePlacementCalibrationStore.getWindow]
    split
    · exact hsame _
    · exact ⟨_, hcleanup, fun _ h => h⟩
  | listSamples calibrationId limit =>
    dsimp only [VoicePlacementCalibrationStore.listSamples]
    split
    · exact hsame _
    · exact ⟨_, hcleanup, fun _ h => h⟩
  | cancelWindow calibrationId =>
    dsimp only [VoicePlacementCalibrationStore.cancelWindow]
    split <;> exact hsame _
  | startWindow request =>
    dsimp only
    split
    · next window s' hstart =>
      obtain ⟨-, -, -, rfl⟩ := startWindow_eq hstart
      exact hsame _
    · exact hsame _
  | recordSample calibrationId metrics observedAt =>
    cases hrecord : s.recordSample sanitizeMetrics calibrationId metrics observedAt input.hex
      input.now with
    | error error =>
      simp only [hrecord]
      exact hsame s
    | ok recorded =>
      obtain ⟨sample, s'⟩ := recorded
      simp only [hrecord]
      obtain ⟨window, kept, -, -, -, rfl⟩ := recordSample_eq hrecord
      exact ⟨_, samples_cleanup _ _, fun _ h => h⟩

theorem mem_withRecorded {recorded : Option (CalibrationSample μ)} {sample : CalibrationSample μ}
    (h : sample ∈ withRecorded recorded s) : recorded = some sample ∨ sample ∈ s.samples := by
  cases recorded with
  | none => exact .inr h
  | some sample' =>
    rcases List.mem_cons.mp (List.mem_of_mem_take h) with rfl | h
    · exact .inl rfl
    · exact .inr h

/-- A recorded sample has a new id, and is one of a stored window. -/
theorem recordedBy_eq {input : Input ν} {sample : CalibrationSample μ}
    (h : recordedBy sanitizeMetrics s input = some sample) :
    sample.sampleId = "placement-sample-" ++ input.hex ∧
      (∃ w ∈ s.windows, w.calibrationId = sample.calibrationId) ∧
      ∀ request, input.call ≠ .startWindow request := by
  unfold recordedBy at h
  split at h
  · next calibrationId metrics observedAt hcall =>
    split at h
    · next sample' s' hrecord =>
      obtain rfl := Option.some.inj h
      obtain ⟨window, kept, hfind, -, hsample, -⟩ := recordSample_eq hrecord
      obtain ⟨w, hw, rfl⟩ := List.mem_map.mp (List.mem_of_find?_eq_some hfind)
      have hid : (w.complete input.now).calibrationId = strip calibrationId := by
        simpa using List.find?_some hfind
      rw [(WindowLater.complete input.now w).calibrationId] at hid
      refine ⟨by rw [hsample]; rfl, ⟨w, hw, ?_⟩, by simp [hcall]⟩
      rw [hid, hsample]
      rfl
    · cases h
  · cases h

/-! ### Steps keep the invariant -/

theorem Sound.step (h : Sound s) {input : Input ν} (htimely : Timely s input)
    (hkeeps : keepsLifetimes s input = true) : Sound (step sanitizeMetrics s input) := by
  have hwindows := windowsAfter_perform sanitizeMetrics h htimely hkeeps
  refine ⟨hwindows.nodup h htimely, fun w' hw' => ?_, fun sample hsample => ?_⟩
  · rcases hwindows.mem hw' with ⟨hnew, hdays⟩ | ⟨w, hw, hlater⟩
    · exact ⟨⟨input.hex, List.mem_cons_self, hnew⟩, hdays⟩
    · obtain ⟨⟨hex, hdrawn, hid⟩, hdays⟩ := h.windows w hw
      refine ⟨⟨hex, List.mem_cons_of_mem _ hdrawn, hlater.calibrationId.trans hid⟩, ?_⟩
      rw [hlater.retentionDays]
      exact hdays
  · obtain ⟨p, heq, -⟩ := samples_perform sanitizeMetrics s input
    rw [show (HexeVoice.Placement.step sanitizeMetrics s input).samples = _ from heq] at hsample
    rcases mem_withRecorded (List.mem_of_mem_filter hsample) with hrecorded | hsample
    · obtain ⟨hid, ⟨w, hw, hwindow⟩, -⟩ := recordedBy_eq hrecorded
      obtain ⟨⟨hex, hdrawn, hcal⟩, -⟩ := h.windows w hw
      exact ⟨⟨input.hex, List.mem_cons_self, hid⟩,
        ⟨hex, List.mem_cons_of_mem _ hdrawn, hwindow.symm.trans hcal⟩⟩
    · obtain ⟨⟨hex, hdrawn, hid⟩, hex', hdrawn', hcal⟩ := h.samples sample hsample
      exact ⟨⟨hex, List.mem_cons_of_mem _ hdrawn, hid⟩,
        ⟨hex', List.mem_cons_of_mem _ hdrawn', hcal⟩⟩

/-! ### How long samples are kept -/

/-- The samples of a stored window are kept for its days. -/
theorem retentionDays_of_mem (h : Sound s) (hw : w ∈ s.windows) :
    s.retentionDays w.calibrationId = w.retentionDays := by
  have hdays := (h.windows w hw).2
  unfold VoicePlacementCalibrationStore.retentionDays
  split
  · next w' hfind =>
    have hid : w'.calibrationId = w.calibrationId := by simpa using List.find?_some hfind
    have hw' : w' ∈ s.windows := List.mem_reverse.mp (List.mem_of_find?_eq_some hfind)
    obtain rfl := List.inj_on_of_nodup_map h.nodup hw' hw hid
    unfold orDefault
    split <;> omega
  · next hnone =>
    have hnot := List.find?_eq_none.mp hnone w (List.mem_reverse.mpr hw)
    simp at hnot

theorem retentionDays_of_not_mem {id : String} (h : ∀ w ∈ s.windows, w.calibrationId ≠ id) :
    s.retentionDays id = 3 := by
  have hnone : (s.windows.reverse.find? fun w => w.calibrationId = id) = none := by
    refine List.find?_eq_none.mpr fun w hw => ?_
    simpa using h w (List.mem_reverse.mp hw)
  rw [VoicePlacementCalibrationStore.retentionDays, hnone]

variable (sanitizeMetrics) in
/-- How long the samples of a window are kept changes only where a new window evicts it. -/
theorem retentionDays_perform (h : Sound s) {input : Input ν} (htimely : Timely s input)
    (hkeeps : keepsLifetimes s input = true) {id : String}
    (hid : ∃ hex ∈ s.drawn, id = "placement-cal-" ++ hex) :
    (step sanitizeMetrics s input).retentionDays id = s.retentionDays id ∨
      (step sanitizeMetrics s input).retentionDays id = 3 ∧
        ∃ request, input.call = .startWindow request ∧ strip request.endpointId ≠ "" ∧
          strip request.room ≠ "" ∧
          ∃ w ∈ s.windows.drop (s.maxWindows - 1), w.calibrationId = id := by
  have hsound : Sound (step sanitizeMetrics s input) := h.step htimely hkeeps
  have hwindows : WindowsAfter s input (step sanitizeMetrics s input).windows :=
    windowsAfter_perform sanitizeMetrics h htimely hkeeps
  have hnew : "placement-cal-" ++ input.hex ≠ id := by
    obtain ⟨hex, hdrawn, rfl⟩ := hid
    exact fun heq => htimely.2 (append_injective heq ▸ hdrawn)
  by_cases hstored : ∃ w ∈ s.windows, w.calibrationId = id
  · obtain ⟨w, hw, rfl⟩ := hstored
    by_cases hstays : ∃ w' ∈ (step sanitizeMetrics s input).windows,
        w'.calibrationId = w.calibrationId
    · -- the window is still there, with its days
      left
      obtain ⟨w', hw', hsame⟩ := hstays
      rcases hwindows.mem hw' with ⟨hopened, -⟩ | ⟨w₀, hw₀, hlater⟩
      · exact absurd (hopened.symm.trans hsame) hnew
      · obtain rfl := List.inj_on_of_nodup_map h.nodup hw₀ hw (hlater.calibrationId.symm.trans hsame)
        rw [← hsame, retentionDays_of_mem hsound hw', hsame, retentionDays_of_mem h hw,
          hlater.retentionDays]
    · right
      push Not at hstays
      refine ⟨retentionDays_of_not_mem hstays, ?_⟩
      generalize (step sanitizeMetrics s input).windows = windows at hwindows hstays
      cases hwindows with
      | each f hf =>
        exact absurd (hf w hw).calibrationId (hstays _ (List.mem_map_of_mem hw))
      | opened request hcall hendpoint hroom f hf =>
        refine ⟨request, hcall, hendpoint, hroom, w, ?_, rfl⟩
        by_contra hkept
        have htake : w ∈ s.windows.take (s.maxWindows - 1) := by
          have hmem := hw
          rw [← List.take_append_drop (s.maxWindows - 1) s.windows, List.mem_append] at hmem
          exact hmem.resolve_right hkept
        refine hstays (f w) ?_ (hf w hw).calibrationId
        cases hmax : s.maxWindows with
        | zero => simp [hmax] at hkept; exact absurd hw hkept
        | succ n =>
          rw [hmax, Nat.add_sub_cancel] at htake
          rw [List.take_succ_cons, ← List.map_take]
          exact List.mem_cons_of_mem _ (List.mem_map_of_mem htake)
  · left
    push Not at hstored
    rw [retentionDays_of_not_mem hstored, retentionDays_of_not_mem]
    intro w' hw'
    rcases hwindows.mem hw' with ⟨hopened, -⟩ | ⟨w, hw, hlater⟩
    · rw [hopened]
      exact hnew
    · rw [hlater.calibrationId]
      exact hstored w hw

/-! ### Windows in a run -/

/-- What a store may have become in a run: its windows are new or were there before. -/
structure Later (s s' : VoicePlacementCalibrationStore μ) : Prop where
  clock : s.clock ≤ s'.clock
  drawn : s.drawn ⊆ s'.drawn
  maxSamples : s'.maxSamples = s.maxSamples
  windows : ∀ w' ∈ s'.windows, (∃ hex, hex ∉ s.drawn ∧ w'.calibrationId = "placement-cal-" ++ hex) ∨
    ∃ w ∈ s.windows, WindowLater s.clock s'.clock w w'

theorem Later.refl (s : VoicePlacementCalibrationStore μ) : Later s s :=
  ⟨le_rfl, List.Subset.refl _, rfl, fun w hw => .inr ⟨w, hw, .refl _ _ w⟩⟩

theorem Later.trans (a b c : VoicePlacementCalibrationStore μ) (h : Later a b) (h' : Later b c) :
    Later a c := by
  refine ⟨h.clock.trans h'.clock, List.Subset.trans h.drawn h'.drawn,
    h'.maxSamples.trans h.maxSamples, fun w'' hw'' => ?_⟩
  rcases h'.windows w'' hw'' with ⟨hex, hnew, hid⟩ | ⟨w', hw', hlater'⟩
  · exact .inl ⟨hex, fun hdrawn => hnew (h.drawn hdrawn), hid⟩
  · rcases h.windows w' hw' with ⟨hex, hnew, hid⟩ | ⟨w, hw, hlater⟩
    · exact .inl ⟨hex, hnew, hlater'.calibrationId.trans hid⟩
    · exact .inr ⟨w, hw, hlater.trans hlater' h.clock h'.clock⟩

theorem maxSamples_perform (sanitizeMetrics : ν → Except String μ)
    (s : VoicePlacementCalibrationStore μ) (input : Input ν) :
    (perform sanitizeMetrics s input).maxSamples = s.maxSamples := by
  unfold perform
  cases input.call with
  | status | cleanup => rfl
  | getWindow calibrationId =>
    dsimp only [VoicePlacementCalibrationStore.getWindow]
    split <;> rfl
  | listSamples calibrationId limit =>
    dsimp only [VoicePlacementCalibrationStore.listSamples]
    split <;> rfl
  | cancelWindow calibrationId =>
    dsimp only [VoicePlacementCalibrationStore.cancelWindow]
    split <;> rfl
  | startWindow request =>
    dsimp only
    split
    · next window s' hstart =>
      obtain ⟨-, -, -, rfl⟩ := startWindow_eq hstart
      rfl
    · rfl
  | recordSample calibrationId metrics observedAt =>
    dsimp only
    split
    · next sample s' hrecord =>
      obtain ⟨window, kept, -, -, -, rfl⟩ := recordSample_eq hrecord
      rfl
    · rfl

/-- A step makes of a store a later one. -/
theorem Sound.later (h : Sound s) {input : Input ν} (htimely : Timely s input)
    (hkeeps : keepsLifetimes s input = true) :
    Later s (HexeVoice.Placement.step sanitizeMetrics s input) := by
  refine ⟨htimely.1, List.subset_cons_self _ _, maxSamples_perform sanitizeMetrics s input,
    fun w' hw' => ?_⟩
  rcases (windowsAfter_perform sanitizeMetrics h htimely hkeeps).mem hw' with
    ⟨hnew, -⟩ | ⟨w, hw, hlater⟩
  · exact .inl ⟨input.hex, htimely.2, hnew⟩
  · exact .inr ⟨w, hw, (WindowLater.refl s.clock s.clock w).trans hlater htimely.1 htimely.1⟩

/-- A window of a later store is what became of the one of its id. -/
theorem Later.window (hsound : Sound s) {s' : VoicePlacementCalibrationStore μ} (h : Later s s')
    {w w' : CalibrationWindow} (hw : w ∈ s.windows) (hw' : w' ∈ s'.windows)
    (hid : w'.calibrationId = w.calibrationId) : WindowLater s.clock s'.clock w w' := by
  rcases h.windows w' hw' with ⟨hex, hnew, hid'⟩ | ⟨w₀, hw₀, hlater⟩
  · obtain ⟨⟨hex', hdrawn, hid''⟩, -⟩ := hsound.windows w hw
    exact absurd (append_injective ((hid'.symm.trans hid).trans hid'') ▸ hdrawn) hnew
  · obtain rfl := List.inj_on_of_nodup_map hsound.nodup hw₀ hw (hlater.calibrationId.symm.trans hid)
    exact hlater

/-! ### A sample in a run -/

/-- How many samples the calls record. -/
def recordsIn (sanitizeMetrics : ν → Except String μ) :
    VoicePlacementCalibrationStore μ → List (Input ν) → ℕ
  | _, [] => 0
  | s, input :: inputs =>
    (if (recordedBy sanitizeMetrics s input).isSome then 1 else 0) +
      recordsIn sanitizeMetrics (step sanitizeMetrics s input) inputs

/-- The sample is kept for this many days, and is among the stored ones unless it is past them or
too many were recorded after it. -/
structure Tracked (sample : CalibrationSample μ) (days : ℤ) (k : ℕ)
    (s : VoicePlacementCalibrationStore μ) : Prop where
  drawn : ∃ hex ∈ s.drawn, sample.sampleId = "placement-sample-" ++ hex
  calibration : ∃ hex ∈ s.drawn, sample.calibrationId = "placement-cal-" ++ hex
  positive : 1 ≤ days
  kept : sample ∈ s.samples → s.retentionDays sample.calibrationId = days ∨
    s.retentionDays sample.calibrationId = 3 ∧ sample.observedAt + max days 3 * day < s.clock
  stored : k < s.maxSamples →
    sample ∈ s.samples.take (k + 1) ∨ sample.observedAt + days * day < s.clock

theorem mem_take_filter {α : Type} {p : α → Bool} {x : α} {n : ℕ} {l : List α}
    (hx : x ∈ l.take n) (hp : p x = true) : x ∈ (l.filter p).take n := by
  have hsplit : l.filter p = (l.take n).filter p ++ (l.drop n).filter p := by
    rw [← List.filter_append, List.take_append_drop]
  have hlength : ((l.take n).filter p).length ≤ n :=
    (List.length_filter_le _ _).trans (List.length_take_le n l)
  rw [hsplit, List.take_append, List.take_of_length_le hlength]
  exact List.mem_append_left _ (List.mem_filter.mpr ⟨hx, hp⟩)

/-- The sample is past its days when the store with these windows does not retain it. -/
theorem past_of_not_retains {sample : CalibrationSample μ} {days now : ℤ} (hpositive : 1 ≤ days)
    (hkept : s.retentionDays sample.calibrationId = days ∨
      s.retentionDays sample.calibrationId = 3 ∧ sample.observedAt + max days 3 * day < now)
    (h : s.retains now sample = false) : sample.observedAt + days * day < now := by
  have hday : day = 86400000000 := rfl
  simp only [VoicePlacementCalibrationStore.retains, decide_eq_false_iff_not, not_le] at h
  rcases hkept with hdays | ⟨-, hpast⟩
  · rw [hdays, max_eq_right hpositive] at h
    omega
  · rw [hday] at hpast ⊢
    omega

/-- A retained sample is not past its days. -/
theorem not_past_of_retains {sample : CalibrationSample μ} {days now : ℤ} (hpositive : 1 ≤ days)
    (hkept : s.retentionDays sample.calibrationId = days ∨
      s.retentionDays sample.calibrationId = 3 ∧ sample.observedAt + max days 3 * day < now)
    (h : s.retains now sample = true) : now ≤ sample.observedAt + days * day := by
  have hday : day = 86400000000 := rfl
  simp only [VoicePlacementCalibrationStore.retains, decide_eq_true_eq] at h
  rcases hkept with hdays | ⟨hdays, hpast⟩
  · rw [hdays, max_eq_right hpositive] at h
    omega
  · rw [hdays, hday] at h
    rw [hday] at hpast
    omega

variable (sanitizeMetrics) in
/-- A call keeps the days of a stored sample, or finds it past them. -/
theorem Tracked.kept_step (h : Sound s) {input : Input ν} (htimely : Timely s input)
    (hkeeps : keepsLifetimes s input = true) {sample : CalibrationSample μ} {days : ℤ} {k : ℕ}
    (htracked : Tracked sample days k s) (hstored : sample ∈ s.samples) :
    (step sanitizeMetrics s input).retentionDays sample.calibrationId = days ∨
      (step sanitizeMetrics s input).retentionDays sample.calibrationId = 3 ∧
        sample.observedAt + max days 3 * day < input.now := by
  have hclock := htimely.1
  rcases htracked.kept hstored with hdays | ⟨hthree, hpast⟩
  · rcases retentionDays_perform sanitizeMetrics h htimely hkeeps
      htracked.calibration with hsame | ⟨hthree, request, hcall, hendpoint, hroom, w, hw, hid⟩
    · exact .inl (hsame.trans hdays)
    · have hwindow := retentionDays_of_mem h (List.mem_of_mem_drop hw)
      rw [hid, hdays] at hwindow
      -- the window that goes has no samples that are kept otherwise without it
      simp only [keepsLifetimes, hcall, hendpoint, hroom, decide_false, Bool.false_or,
        List.all_eq_true] at hkeeps
      have hevicted := hkeeps w hw sample hstored
      simp only [hid, ne_eq, not_true_eq_false, decide_false, Bool.false_or, Bool.or_eq_true,
        decide_eq_true_eq, ← hwindow] at hevicted
      rcases hevicted with rfl | hpast
      · exact .inl hthree
      · exact .inr ⟨hthree, hpast⟩
  · right
    refine ⟨?_, by omega⟩
    rcases retentionDays_perform sanitizeMetrics h htimely hkeeps
      htracked.calibration with hsame | ⟨hthree, -⟩
    · exact hsame.trans hthree
    · exact hthree

theorem Tracked.step (h : Sound s) {input : Input ν} (htimely : Timely s input)
    (hkeeps : keepsLifetimes s input = true) {sample : CalibrationSample μ} {days : ℤ} {k : ℕ}
    (htracked : Tracked sample days k s) :
    Tracked sample days (k + if (recordedBy sanitizeMetrics s input).isSome then 1 else 0)
      (step sanitizeMetrics s input) := by
  obtain ⟨p, hsamples, hdropped⟩ := samples_perform sanitizeMetrics s input
  have hmax : (HexeVoice.Placement.step sanitizeMetrics s input).maxSamples = s.maxSamples :=
    maxSamples_perform sanitizeMetrics s input
  have hclock := htimely.1
  obtain ⟨hex, hdrawn, hid⟩ := htracked.drawn
  obtain ⟨hex', hdrawn', hid'⟩ := htracked.calibration
  refine ⟨⟨hex, List.mem_cons_of_mem _ hdrawn, hid⟩, ⟨hex', List.mem_cons_of_mem _ hdrawn', hid'⟩,
    htracked.positive, fun hmem => ?_, fun hk => ?_⟩
  · rw [show (HexeVoice.Placement.step sanitizeMetrics s input).samples = _ from hsamples] at hmem
    rcases mem_withRecorded (List.mem_of_mem_filter hmem) with hrecorded | hstored
    · have hnew := (recordedBy_eq hrecorded).1
      exact absurd (append_injective (hid.symm.trans hnew) ▸ hdrawn) htimely.2
    · exact htracked.kept_step sanitizeMetrics h htimely hkeeps hstored
  · rw [hmax] at hk
    have hpast : sample.observedAt + days * day < s.clock →
        sample.observedAt + days * day < input.now := fun h => h.trans_le hclock
    rcases htracked.stored (by omega) with hstored | hbefore
    · have hkept := htracked.kept_step sanitizeMetrics h htimely hkeeps
        (List.mem_of_mem_take hstored)
      by_cases hp : p sample = true
      · left
        rw [show (HexeVoice.Placement.step sanitizeMetrics s input).samples = _ from hsamples]
        apply mem_take_filter _ hp
        cases hrecorded : recordedBy sanitizeMetrics s input with
        | none => exact hstored
        | some recorded =>
          rw [hrecorded, Option.isSome_some, if_pos rfl] at hk
          rw [withRecorded, List.take_take, min_eq_left (by simp; omega)]
          exact List.mem_cons_of_mem _ hstored
      · right
        refine past_of_not_retains htracked.positive hkept ?_
        exact hdropped sample (by simpa using hp)
    · exact .inr (hpast hbefore)

/-- A sample that was just recorded of a window is kept for its days. -/
theorem tracked_recorded (h : Sound s) {input : Input ν} (htimely : Timely s input)
    (hkeeps : keepsLifetimes s input = true) {sample : CalibrationSample μ}
    (hrecorded : recordedBy sanitizeMetrics s input = some sample)
    (hw : w ∈ s.windows) (hid : w.calibrationId = sample.calibrationId) :
    Tracked sample w.retentionDays 0 (step sanitizeMetrics s input) := by
  obtain ⟨hnew, -, hcall⟩ := recordedBy_eq hrecorded
  obtain ⟨⟨hex, hdrawn, hcalibration⟩, hpositive⟩ := h.windows w hw
  obtain ⟨p, hsamples, hdropped⟩ := samples_perform sanitizeMetrics s input
  have hdays : (step sanitizeMetrics s input).retentionDays sample.calibrationId =
      w.retentionDays := by
    rw [← hid, ← retentionDays_of_mem h hw]
    rcases retentionDays_perform sanitizeMetrics h htimely hkeeps
      ⟨hex, hdrawn, hcalibration⟩ with hsame | ⟨-, request, hstart, -⟩
    · exact hsame
    · exact absurd hstart (hcall request)
  refine ⟨⟨input.hex, List.mem_cons_self, hnew⟩,
    ⟨hex, List.mem_cons_of_mem _ hdrawn, hid.symm.trans hcalibration⟩, hpositive,
    fun _ => .inl hdays, fun hk => ?_⟩
  by_cases hp : p sample = true
  · left
    rw [show (step sanitizeMetrics s input).samples = _ from hsamples]
    apply mem_take_filter _ hp
    have hmax : (step sanitizeMetrics s input).maxSamples = s.maxSamples :=
      maxSamples_perform sanitizeMetrics s input
    rw [hmax] at hk
    rw [hrecorded, withRecorded, List.take_take, min_eq_left (by omega)]
    exact List.mem_cons_self
  · right
    refine past_of_not_retains hpositive (.inl hdays) ?_
    exact hdropped sample (by simpa using hp)

theorem Tracked.run (h : Sound s) {sample : CalibrationSample μ} {days : ℤ} {k : ℕ}
    (htracked : Tracked sample days k s) {inputs : List (Input ν)}
    (hsteps : AllSteps (HexeVoice.Placement.step sanitizeMetrics)
      (fun s input => Timely s input ∧ keepsLifetimes s input = true) s inputs) :
    Tracked sample days (k + recordsIn sanitizeMetrics s inputs)
      (run (HexeVoice.Placement.step sanitizeMetrics) s inputs) := by
  induction inputs generalizing s k with
  | nil => exact htracked
  | cons input inputs ih =>
    obtain ⟨⟨htimely, hkeeps⟩, hrest⟩ := hsteps
    have hnext := ih (h.step htimely hkeeps) (htracked.step h htimely hkeeps) hrest
    rw [Nat.add_assoc] at hnext
    exact hnext

/-- Completing windows keeps the days of every window. -/
theorem retentionDays_complete (s : VoicePlacementCalibrationStore μ) (now : ℤ) (id : String) :
    (s.completeExpiredWindows now).retentionDays id = s.retentionDays id := by
  have hid : (fun w : CalibrationWindow => decide (w.calibrationId = id)) ∘
      (fun w : CalibrationWindow => w.complete now) =
        fun w : CalibrationWindow => decide (w.calibrationId = id) := by
    funext w
    rw [Function.comp_apply, (WindowLater.complete now w).calibrationId]
  unfold VoicePlacementCalibrationStore.retentionDays
    VoicePlacementCalibrationStore.completeExpiredWindows
  dsimp only
  rw [← List.map_reverse, List.find?_map, hid]
  cases s.windows.reverse.find? fun w => decide (w.calibrationId = id) with
  | none => rfl
  | some w =>
    dsimp only [Option.map_some]
    rw [(WindowLater.complete now w).retentionDays]

theorem mem_listed {sample : CalibrationSample μ} :
    sample ∈ s.listed sample.calibrationId now ↔
      sample ∈ s.samples ∧ s.retains now sample = true := by
  have hretains : (s.completeExpiredWindows now).retains now sample = s.retains now sample := by
    unfold VoicePlacementCalibrationStore.retains
    rw [retentionDays_complete]
  simp only [VoicePlacementCalibrationStore.listed, VoicePlacementCalibrationStore.cleanup,
    List.mem_filter, decide_true, and_true, hretains]
  rfl

/-- A tracked sample is listed as long as its days last, unless too many came after it. -/
theorem Tracked.listed {sample : CalibrationSample μ} {days : ℤ} {k : ℕ}
    (h : Tracked sample days k s) (hnow : s.clock ≤ now) :
    (sample ∈ s.listed sample.calibrationId now → now ≤ sample.observedAt + days * day) ∧
      (k < s.maxSamples → now ≤ sample.observedAt + days * day →
        sample ∈ s.listed sample.calibrationId now) := by
  have hkept (hstored : sample ∈ s.samples) :
      s.retentionDays sample.calibrationId = days ∨
        s.retentionDays sample.calibrationId = 3 ∧
          sample.observedAt + max days 3 * day < now :=
    (h.kept hstored).imp_right fun hpast => ⟨hpast.1, hpast.2.trans_le hnow⟩
  rw [mem_listed]
  constructor
  · rintro ⟨hstored, hretains⟩
    exact not_past_of_retains h.positive (hkept hstored) hretains
  · intro hk hdays
    rcases h.stored hk with hstored | hpast
    · have hmem := List.mem_of_mem_take hstored
      refine ⟨hmem, ?_⟩
      by_contra hnot
      have hpast := past_of_not_retains h.positive (hkept hmem) (by simpa using hnot)
      omega
    · omega

/-! ### The lifetimes -/

/-- A window that is read is not active past its end. -/
theorem getWindow_active {id : String}
    (h : (s.getWindow id now).1 = some w) (hactive : w.status = .active) : now < w.endsAt := by
  unfold VoicePlacementCalibrationStore.getWindow at h
  generalize strip id = target at h
  dsimp only at h
  split at h
  · cases h
  · obtain ⟨w₀, -, rfl⟩ := List.mem_map.mp (List.mem_of_find?_eq_some h)
    unfold CalibrationWindow.complete at hactive ⊢
    split at hactive
    · cases hactive
    · next hnot =>
      rw [if_neg hnot]
      exact not_le.mp fun hend => hnot ⟨hactive, hend⟩

/-- **Windows end once, and samples live as long as promised**, in a run of calls that keep
lifetimes. -/
theorem lifetimes_kept (sanitizeMetrics : ν → Except String μ) (maxWindows maxSamples : ℕ)
    (clock : ℤ) (pre post : List (Input ν)) (input : Input ν)
    (hsteps : AllSteps (step sanitizeMetrics)
      (fun s input => Timely s input ∧ keepsLifetimes s input = true)
      (.init μ maxWindows maxSamples clock) (pre ++ input :: post)) :
    let before := run (step sanitizeMetrics) (.init μ maxWindows maxSamples clock) pre
    let recorded := step sanitizeMetrics before input
    let after := run (step sanitizeMetrics) recorded post
    (∀ w ∈ before.windows, ∀ w' ∈ recorded.windows, w'.calibrationId = w.calibrationId →
      WindowLater input.now input.now w w') ∧
    (∀ w ∈ recorded.windows, ∀ w' ∈ after.windows, w'.calibrationId = w.calibrationId →
      WindowLater input.now after.clock w w') ∧
    (∀ now id w, (after.getWindow id now).1 = some w → w.status = .active → now < w.endsAt) ∧
    ∀ sample, recordedBy sanitizeMetrics before input = some sample →
      ∀ w ∈ before.windows, w.calibrationId = sample.calibrationId → ∀ now, after.clock ≤ now →
        (sample ∈ after.listed sample.calibrationId now →
          now ≤ sample.observedAt + w.retentionDays * day) ∧
        (recordsIn sanitizeMetrics recorded post < max 1 maxSamples →
          now ≤ sample.observedAt + w.retentionDays * day →
          sample ∈ after.listed sample.calibrationId now) := by
  intro before recorded after
  rw [allSteps_append, allSteps_cons] at hsteps
  obtain ⟨hpre, ⟨htimely, hkeeps⟩, hpost⟩ := hsteps
  have hstep : ∀ (s : VoicePlacementCalibrationStore μ) (input : Input ν), Sound s →
      Timely s input ∧ keepsLifetimes s input = true →
        Sound (step sanitizeMetrics s input) ∧ Later s (step sanitizeMetrics s input) :=
    fun s input h hok => ⟨h.step hok.1 hok.2, h.later hok.1 hok.2⟩
  have hsound : Sound before :=
    run_invariant (fun s input h hok => (hstep s input h hok).1) (sound_init _ _ _ _) hpre
  have hinit : Later (.init μ maxWindows maxSamples clock) before :=
    run_rel Later.refl Later.trans hstep (sound_init _ _ _ _) hpre
  have hrecorded : Sound recorded := hsound.step htimely hkeeps
  have hmid : Later before recorded := hsound.later htimely hkeeps
  have hafter : Later recorded after := run_rel Later.refl Later.trans hstep hrecorded hpost
  refine ⟨fun w hw w' hw' hid => ?_, fun w hw w' hw' hid => hafter.window hrecorded hw hw' hid,
    fun now id w hget hactive => getWindow_active hget hactive,
    fun sample hsample w hw hid now hnow => ?_⟩
  · have hwindows := windowsAfter_perform sanitizeMetrics hsound htimely hkeeps
    rcases hwindows.mem hw' with ⟨hnew, -⟩ | ⟨w₀, hw₀, hlater⟩
    · obtain ⟨⟨hex, hdrawn, hid'⟩, -⟩ := hsound.windows w hw
      exact absurd (append_injective ((hnew.symm.trans hid).trans hid') ▸ hdrawn) htimely.2
    · obtain rfl :=
        List.inj_on_of_nodup_map hsound.nodup hw₀ hw (hlater.calibrationId.symm.trans hid)
      exact hlater
  · have htracked := (tracked_recorded hsound htimely hkeeps hsample hw hid).run hrecorded hpost
    obtain ⟨hpromise, hlisted⟩ := htracked.listed hnow
    refine ⟨hpromise, fun hk => hlisted ?_⟩
    have hmax : after.maxSamples = max 1 maxSamples :=
      (hafter.maxSamples.trans hmid.maxSamples).trans hinit.maxSamples
    rw [hmax, Nat.zero_add]
    exact hk

section kitchen

/-- A window of the kitchen, whose samples are kept for five days. -/
def kitchenRequest : WindowRequest where
  endpointId := "kitchen"
  room := "Kitchen"
  retentionDays := 5

def kitchenWindow : Input Unit := ⟨0, "a", .startWindow kitchenRequest⟩

/-- An hour later a sample is recorded. -/
def kitchenRecord : Input Unit := ⟨hour, "b", .recordSample "placement-cal-a" () none⟩

def kitchenSample : CalibrationSample Unit where
  sampleId := "placement-sample-b"
  calibrationId := "placement-cal-a"
  endpointId := "kitchen"
  room := "Kitchen"
  zone := none
  observedAt := hour
  receivedAt := hour
  metrics := ()

theorem lifetimes_kept_kitchen :
    let before := run (step fun _ : Unit => .ok ()) (.init Unit 10 10 0) [kitchenWindow]
    let after := run (step fun _ : Unit => .ok ()) before
      [kitchenRecord, ⟨2 * hour, "c", .cancelWindow "placement-cal-a"⟩]
    recordedBy (fun _ => .ok ()) before kitchenRecord = some kitchenSample ∧
      kitchenSample ∈ after.listed "placement-cal-a" (5 * day) := by
  have h := lifetimes_kept (fun _ : Unit => .ok ()) 10 10 0 [kitchenWindow]
    [⟨2 * hour, "c", .cancelWindow "placement-cal-a"⟩] kitchenRecord (by decide +kernel)
  have hrecorded : recordedBy (fun _ : Unit => .ok ()) (run (step fun _ : Unit => .ok ())
      (.init Unit 10 10 0) [kitchenWindow]) kitchenRecord = some kitchenSample := by decide +kernel
  refine ⟨hrecorded, ?_⟩
  exact (h.2.2.2 kitchenSample hrecorded (newWindow kitchenRequest "a" 0) (by decide +kernel) rfl
    (5 * day) (by decide +kernel)).2 (by decide +kernel) (by decide +kernel)

/-- **A completed window can be cancelled**, and the samples of a window that is evicted are no
longer kept for its days. -/
theorem completed_window_cancelled :
    (let completed := run (step fun _ : Unit => .ok ()) (.init Unit 10 10 0)
        [kitchenWindow, ⟨day, "b", .getWindow "placement-cal-a"⟩]
      let cancelled := step (fun _ : Unit => .ok ()) completed
        ⟨day, "c", .cancelWindow "placement-cal-a"⟩
      completed.windows.map (·.status) = [.completed] ∧
        cancelled.windows.map (·.status) = [.cancelled]) ∧
    let recorded := run (step fun _ : Unit => .ok ()) (.init Unit 1 10 0)
      [kitchenWindow, kitchenRecord]
    let evicted := step (fun _ : Unit => .ok ()) recorded
      ⟨2 * hour, "c", .startWindow { endpointId := "study", room := "Study" }⟩
    recorded.listed "placement-cal-a" (4 * day) = [kitchenSample] ∧
      evicted.listed "placement-cal-a" (4 * day) = [] := by
  decide +kernel

end kitchen

end HexeVoice.Placement
