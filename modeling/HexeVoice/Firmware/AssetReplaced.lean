import HexeVoice.Firmware.AssetSync
import HexeVoice.Library.Interrupted

/-!
# Replacing an asset, interrupted

`download_asset_file` and `write_manifest` of `system/asset_sync.cpp`, where every operation on the card may
fail or be where power is lost: both write a temporary file, close it, remove the file that is installed and
rename the temporary one, on a file system that does not rename over a file.

## The model

The storage is the installed file and the temporary one, whose name has an ending of its own. A close that
fails loses the bytes that were not written yet. What the server sends and how many bytes those are is given.

## What is proved

**`replaced_safely_iff`**: a call that does not end in success, however it fails or is interrupted, leaves the
file as it was or complete, exactly if it is sent nothing that it would install, or no file is installed yet
and nothing is lost in closing.
-/

namespace HexeVoice.Firmware.AssetReplaced

open HexeVoice.Library HexeVoice.Library.Interrupted
open HexeVoice.Firmware.AssetSync (Bytes Listing Platform Transfer received)

variable {data : Bytes}

/-- The file at `final_path` and the one at `temp_path`. -/
structure Slot where
  final : Option Bytes
  temp : Option Bytes
  deriving DecidableEq

/-! ### Operations on the card -/

/-- `std::fopen(temp_path, "wb")`. -/
def openTemp : Interrupted Slot Bool := change fun slot => { slot with temp := some [] }

/-- `std::fwrite`, and whether all was written. -/
def writeTemp (bytes : Bytes) : Interrupted Slot Bool :=
  change fun slot => { slot with temp := slot.temp.map (· ++ bytes) }

/-- `std::fclose`, whose result is not looked at; if it fails, the last `unflushed` bytes are lost. -/
def closeTemp (unflushed : ℕ) : Interrupted Slot Unit := attempt fun works slot =>
  ((), if works then slot
    else { slot with temp := slot.temp.map fun bytes => bytes.take (bytes.length - unflushed) })

/-- `std::remove(temp_path)`. -/
def removeTemp : Interrupted Slot Unit := attempt fun works slot =>
  ((), if works then { slot with temp := none } else slot)

/-- `std::remove(final_path)`. -/
def removeFinal : Interrupted Slot Unit := attempt fun works slot =>
  ((), if works then { slot with final := none } else slot)

/-- `std::rename(temp_path, final_path)`, which fails where there is a file already. -/
def rename : Interrupted Slot Bool := attempt fun works slot =>
  match slot.final, slot.temp with
  | none, some bytes => if works then (true, ⟨some bytes, none⟩) else (false, slot)
  | _, _ => (false, slot)

/-- The return to the caller, before which power may be lost as well. -/
def returns : Interrupted Slot Unit := attempt fun _ slot => ((), slot)

/-- The end of both functions, which puts the temporary file in place. -/
def activate : Interrupted Slot Bool := do
  removeFinal
  if ← rename then
    returns
    return true
  else
    removeTemp
    return false

/-! ### The two functions -/

/-- One call of `esp_http_client_read`. -/
inductive Reading where
  | again
  | failed
  | chunk (bytes : Bytes)

def kReadMaxIdleRetries : ℕ := 3

/-- The loop that reads and writes the body; `none` if it ends with an error. -/
def readBody (expectedSize idleRetries : ℕ) (data : Bytes) :
    List Reading → Interrupted Slot (Option Bytes)
  | [] => return some data
  | .again :: readings =>
    if idleRetries < kReadMaxIdleRetries then readBody expectedSize (idleRetries + 1) data readings
    else return none
  | .failed :: _ => return none
  | .chunk bytes :: readings =>
    if bytes = [] then return some data
    else do
      if ← writeTemp bytes then
        if expectedSize ≤ (data ++ bytes).length then return some (data ++ bytes)
        else readBody expectedSize 0 (data ++ bytes) readings
      else return none

/-- What a download meets besides the card. -/
structure Download where
  listing : Listing
  /-- `esp_http_client_init`. -/
  client : Bool
  /-- The connection is opened, and the status is one of success. -/
  accepted : Bool
  readings : List Reading
  unflushed : ℕ

/-- The response up to the end of that loop. -/
def readResponse (d : Download) : Interrupted Slot (Option Bytes) :=
  if d.accepted then readBody d.listing.size 0 [] d.readings else return none

/-- The checks of a body, with the digest if there is one. -/
def verified (platform : Platform) (listing : Listing) (hashed : Bool) (body : Option Bytes) : Bool :=
  match body with
  | none => false
  | some data => data.length = listing.size && hashed && platform.sha256 data = listing.sha256

def downloadAssetFile (platform : Platform) (d : Download) : Interrupted Slot Bool :=
  if !d.client then return false
  else do
    if ← openTemp then
      let body ← readResponse d
      closeTemp d.unflushed
      let hashed ← change id
      if verified platform d.listing hashed body then activate
      else
        removeTemp
        return false
    else return false

/-- The first write of `write_manifest`; there is none without a manifest. -/
def writeText : Option Bytes → Interrupted Slot Bool
  | none => return false
  | some manifest => writeTemp manifest

def writeManifest (manifest : Option Bytes) (unflushed : ℕ) : Interrupted Slot Bool := do
  if ← openTemp then
    let ok ← writeText manifest
    closeTemp unflushed
    if ok then activate
    else
      removeTemp
      return false
  else return false

/-- The two callers of the replacement. -/
inductive Caller where
  | download (d : Download)
  | manifest (text : Option Bytes) (unflushed : ℕ)

variable (platform : Platform)

/-- What is called. -/
def Caller.call : Caller → Interrupted Slot Bool
  | .download d => downloadAssetFile platform d
  | .manifest text unflushed => writeManifest text unflushed

/-! ### What is claimed and when -/

def Caller.unflushed : Caller → ℕ
  | .download d => d.unflushed
  | .manifest _ unflushed => unflushed

/-- A complete new content. -/
def Caller.Complete : Caller → Bytes → Prop
  | .download d, content =>
    content.length = d.listing.size ∧ platform.sha256 content = d.listing.sha256
  | .manifest text _, content => text = some content

/-- A call as the synchronisation's model has it, in which nothing is written in vain. -/
def Reading.met : Reading → AssetSync.Read
  | .again => .again
  | .failed => .failed
  | .chunk bytes => .chunk bytes true

/-- What is sent and would be installed. -/
def Caller.delivered : Caller → Option Bytes
  | .download d =>
    if d.client && d.accepted then
      received platform d.listing { reads := d.readings.map Reading.met }
    else none
  | .manifest text _ => text

/-- The installed file is as it was, or complete and new. -/
def Kept (caller : Caller) (before after : Slot) : Prop :=
  after.final = before.final ∨ ∃ content, after.final = some content ∧ caller.Complete platform content

/-- A call that does not end in success keeps the installed file. -/
def ReplacedSafely (caller : Caller) (slot : Slot) : Prop :=
  ∀ fates, (caller.call platform slot fates).value? ≠ some true →
    Kept platform caller slot (caller.call platform slot fates).storage

/-! ### However a call is interrupted -/

section interrupted

variable {final : Option Bytes}

/-- A file that is as before, or complete. -/
def Whole (before : Option Bytes) (complete : Bytes → Prop) (slot : Slot) : Prop :=
  slot.final = before ∨ ∃ content, slot.final = some content ∧ complete content

theorem openTemp_meets (final : Option Bytes) : Meets openTemp (fun slot => slot.final = final)
    (fun slot => slot.final = final)
    fun ok slot => slot.final = final ∧ (ok = true → slot.temp = some []) := by
  apply Meets.change
  · exact fun _ h => h
  · exact fun slot h => ⟨h, fun _ => rfl⟩
  · exact fun slot h => ⟨h, fun hok => absurd hok (by decide)⟩

theorem writeTemp_meets (data bytes : Bytes) :
    Meets (writeTemp bytes) (fun slot => slot.final = final ∧ slot.temp = some data)
      (fun slot => slot.final = final)
      fun ok slot => slot.final = final ∧ (ok = true → slot.temp = some (data ++ bytes)) := by
  apply Meets.change
  · exact fun _ h => h.1
  · exact fun slot h => ⟨h.1, fun _ => congrArg (Option.map (· ++ bytes)) h.2⟩
  · exact fun slot h => ⟨h.1, fun hok => absurd hok (by decide)⟩

/-- What is in the temporary file after it is closed. -/
theorem closeTemp_meets (data : Bytes) (unflushed : ℕ) :
    Meets (closeTemp unflushed) (fun slot => slot.final = final ∧ slot.temp = some data)
      (fun slot => slot.final = final)
      fun _ slot => slot.final = final ∧
        (slot.temp = some data ∨ slot.temp = some (data.take (data.length - unflushed))) := by
  apply Meets.attempt
  · exact fun _ h => h.1
  · rintro (_ | _) slot ⟨hfinal, htemp⟩
    · refine ⟨hfinal, .inr ?_⟩
      show slot.temp.map _ = _
      rw [htemp]
      rfl
    · exact ⟨hfinal, .inl htemp⟩

theorem removeTemp_meets : Meets removeTemp (fun slot => slot.final = final)
    (fun slot => slot.final = final) fun _ slot => slot.final = final := by
  apply Meets.attempt
  · exact fun _ h => h
  · rintro (_ | _) slot h
    · exact h
    · exact h

/-- What has been read is in the temporary file. -/
theorem readBody_meets (final : Option Bytes) (expectedSize idleRetries : ℕ) (data : Bytes)
    (readings : List Reading) :
    Meets (readBody expectedSize idleRetries data readings)
      (fun slot => slot.final = final ∧ slot.temp = some data) (fun slot => slot.final = final)
      fun body slot => slot.final = final ∧ ∀ bytes, body = some bytes → slot.temp = some bytes ∧
        AssetSync.readBody expectedSize idleRetries data (readings.map Reading.met) = some bytes := by
  induction readings generalizing idleRetries data with
  | nil =>
    apply Meets.pure
    rintro slot ⟨hfinal, htemp⟩
    refine ⟨hfinal, fun bytes hbytes => ?_⟩
    obtain rfl := Option.some.inj hbytes
    exact ⟨htemp, rfl⟩
  | cons reading readings ih =>
    have hfailed : Meets (return none : Interrupted Slot (Option Bytes))
        (fun slot => slot.final = final) (fun slot => slot.final = final)
        fun body slot => slot.final = final ∧ ∀ bytes, body = some bytes → slot.temp = some bytes ∧
          AssetSync.readBody expectedSize idleRetries data ((reading :: readings).map Reading.met) =
            some bytes :=
      .pure fun _ hfinal => ⟨hfinal, fun _ hbytes => absurd hbytes (Option.some_ne_none _).symm⟩
    cases reading with
    | again =>
      rw [readBody]
      split_ifs with hidle
      · refine (ih (idleRetries + 1) data).mono (fun _ h => h) (fun _ h => h) ?_
        rintro body slot ⟨hfinal, hbody⟩
        refine ⟨hfinal, fun bytes hbytes => ?_⟩
        obtain ⟨htemp, hread⟩ := hbody bytes hbytes
        refine ⟨htemp, ?_⟩
        unfold kReadMaxIdleRetries at hidle
        rw [List.map_cons, Reading.met, AssetSync.readBody, if_pos hidle]
        exact hread
      · exact hfailed.mono (fun _ h => h.1) (fun _ h => h) fun _ _ h => h
    | failed => exact hfailed.mono (fun _ h => h.1) (fun _ h => h) fun _ _ h => h
    | chunk bytes =>
      rw [readBody]
      by_cases hempty : bytes = []
      · rw [if_pos hempty]
        apply Meets.pure
        rintro slot ⟨hfinal, htemp⟩
        refine ⟨hfinal, fun content hcontent => ?_⟩
        obtain rfl := Option.some.inj hcontent
        refine ⟨htemp, ?_⟩
        rw [List.map_cons, Reading.met, AssetSync.readBody, if_pos hempty]
      · rw [if_neg hempty]
        apply Meets.bind (writeTemp_meets data bytes)
        rintro (_ | _)
        · exact hfailed.mono (fun _ h => h.1) (fun _ h => h) fun _ _ h => h
        · have hread : AssetSync.readBody expectedSize idleRetries data
              ((Reading.chunk bytes :: readings).map Reading.met) =
              if expectedSize ≤ (data ++ bytes).length then some (data ++ bytes)
              else AssetSync.readBody expectedSize 0 (data ++ bytes) (readings.map Reading.met) := by
            rw [List.map_cons, Reading.met, AssetSync.readBody, if_neg hempty]
            rfl
          rw [hread, if_pos rfl]
          split_ifs
          · apply Meets.pure
            rintro slot ⟨hfinal, htemp⟩
            refine ⟨hfinal, fun content hcontent => ?_⟩
            obtain rfl := Option.some.inj hcontent
            exact ⟨htemp rfl, rfl⟩
          · exact (ih 0 (data ++ bytes)).mono (fun _ h => ⟨h.1, h.2 rfl⟩) (fun _ h => h)
              fun _ _ h => h

/-- Where no file is installed, what is put in place is complete. -/
theorem activate_meets (complete : Bytes → Prop) :
    Meets activate
      (fun slot => slot.final = none ∧ ∃ content, slot.temp = some content ∧ complete content)
      (Whole none complete) fun _ => Whole none complete := by
  have hremove : Meets removeFinal
      (fun slot => slot.final = none ∧ ∃ content, slot.temp = some content ∧ complete content)
      (Whole none complete)
      fun _ slot => slot.final = none ∧ ∃ content, slot.temp = some content ∧ complete content := by
    apply Meets.attempt
    · exact fun _ h => .inl h.1
    · rintro (_ | _) slot ⟨hfinal, htemp⟩
      · exact ⟨hfinal, htemp⟩
      · exact ⟨rfl, htemp⟩
  have hrename : Meets rename
      (fun slot => slot.final = none ∧ ∃ content, slot.temp = some content ∧ complete content)
      (Whole none complete) fun _ => Whole none complete := by
    apply Meets.attempt
    · exact fun _ h => .inl h.1
    · rintro (_ | _) ⟨final, temp⟩ ⟨rfl, content, rfl, hcontent⟩
      · exact .inl rfl
      · exact .inr ⟨content, rfl, hcontent⟩
  have hreturns : Meets returns (Whole none complete) (Whole none complete)
      fun _ => Whole none complete := .attempt (fun _ h => h) fun _ _ h => h
  have hremoveTemp : Meets removeTemp (Whole none complete) (Whole none complete)
      fun _ => Whole none complete := by
    apply Meets.attempt
    · exact fun _ h => h
    · rintro (_ | _) slot h
      · exact h
      · exact h
  refine hremove.bind fun _ => hrename.bind ?_
  rintro (_ | _)
  · exact hremoveTemp.bind fun _ => .pure fun _ h => h
  · exact hreturns.bind fun _ => .pure fun _ h => h

/-- Closing keeps the installed file, whatever is in the temporary one. -/
theorem closeTemp_keeps (unflushed : ℕ) : Meets (closeTemp unflushed) (fun slot => slot.final = final)
    (fun slot => slot.final = final) fun _ slot => slot.final = final := by
  apply Meets.attempt
  · exact fun _ h => h
  · rintro (_ | _) slot h
    · exact h
    · exact h

theorem hash_keeps {pre : Slot → Prop} (hpre : ∀ slot, pre slot → slot.final = final) :
    Meets (change id) pre (fun slot => slot.final = final) fun _ => pre :=
  .change hpre (fun _ h => h) fun _ h => h

/-- The end of a call that installs nothing. -/
theorem giveUp_meets (complete : Bytes → Prop) :
    Meets (do removeTemp; return false) (fun slot => slot.final = final)
      (Whole final complete) fun _ => Whole final complete :=
  (removeTemp_meets.mono (fun _ h => h) (fun _ h => .inl h) fun _ _ h => h).bind fun _ =>
    .pure fun _ h => .inl h

variable {platform}

/-- A body that passes the checks. -/
theorem verified_some {listing : Listing} {hashed : Bool}
    (h : verified platform listing hashed (some data) = true) :
    data.length = listing.size ∧ platform.sha256 data = listing.sha256 := by
  simp only [verified, Bool.and_eq_true, decide_eq_true_eq] at h
  exact ⟨h.1.1, h.2⟩

/-- What was read and passes the checks is what is delivered. -/
theorem delivered_download {d : Download} (hclient : d.client = true)
    (haccepted : d.accepted = true)
    (hread : AssetSync.readBody d.listing.size 0 [] (d.readings.map Reading.met) = some data)
    (hright : data.length = d.listing.size ∧ platform.sha256 data = d.listing.sha256) :
    (Caller.download d).delivered platform = some data := by
  rw [Caller.delivered, hclient, haccepted, Bool.and_self, if_pos rfl, received]
  simp only [hread, if_pos hright]

/-- Where closing can lose nothing, the temporary file is whole. -/
theorem closed_whole {temp : Option Bytes} {unflushed : ℕ}
    (htemp : temp = some data ∨ temp = some (data.take (data.length - unflushed)))
    (hclosed : unflushed = 0 ∨ data = []) : temp = some data := by
  rcases htemp with hsome | hcut
  · exact hsome
  · rcases hclosed with hzero | rfl
    · rw [hcut, hzero, Nat.sub_zero, List.take_length]
    · rw [hcut, List.take_nil]

/-- Where what is delivered can be installed safely, a download keeps the installed file. -/
theorem downloadAssetFile_meets (d : Download) (slot : Slot)
    (hsafe : ∀ data, (Caller.download d).delivered platform = some data →
      slot.final = none ∧ (d.unflushed = 0 ∨ data = [])) :
    Meets (downloadAssetFile platform d) (· = slot)
      (Whole slot.final ((Caller.download d).Complete platform))
      fun _ => Whole slot.final ((Caller.download d).Complete platform) := by
  have hkept : ∀ after : Slot, after.final = slot.final →
      Whole slot.final ((Caller.download d).Complete platform) after := fun _ h => .inl h
  unfold downloadAssetFile
  cases hclient : d.client with
  | false =>
    apply Meets.pure
    rintro _ rfl
    exact .inl rfl
  | true =>
    have hopen := (openTemp_meets slot.final).mono
      (fun after (h : after = slot) => congrArg Slot.final h) hkept fun _ _ h => h
    refine hopen.bind ?_
    rintro (_ | _)
    · exact .pure fun after h => hkept after h.1
    -- the body
    have hread : Meets (readResponse d)
        (fun after => after.final = slot.final ∧ (true = true → after.temp = some []))
        (Whole slot.final ((Caller.download d).Complete platform))
        fun body after => after.final = slot.final ∧ ∀ bytes, body = some bytes →
          after.temp = some bytes ∧ d.accepted = true ∧
            AssetSync.readBody d.listing.size 0 [] (d.readings.map Reading.met) = some bytes := by
      unfold readResponse
      by_cases haccepted : d.accepted = true
      · rw [if_pos haccepted]
        refine (readBody_meets slot.final d.listing.size 0 [] d.readings).mono
          (fun _ h => ⟨h.1, h.2 rfl⟩) hkept ?_
        rintro body after ⟨hfinal, hbody⟩
        refine ⟨hfinal, fun bytes hbytes => ?_⟩
        obtain ⟨htemp, hread⟩ := hbody bytes hbytes
        exact ⟨htemp, haccepted, hread⟩
      · rw [if_neg haccepted]
        exact .pure fun after h =>
          ⟨h.1, fun bytes hbytes => absurd hbytes (Option.some_ne_none _).symm⟩
    rw [if_pos rfl]
    refine hread.bind ?_
    rintro (_ | data)
    · -- there is none
      refine ((closeTemp_keeps d.unflushed).mono (fun _ h => h.1) hkept fun _ _ h => h).bind fun _ => ?_
      refine ((hash_keeps fun _ h => h).mono (fun _ h => h) hkept fun _ _ h => h).bind fun hashed => ?_
      exact giveUp_meets _
    · have hclose : Meets (closeTemp d.unflushed)
          (fun after => after.final = slot.final ∧ ∀ bytes, some data = some bytes →
            after.temp = some bytes ∧ d.accepted = true ∧
              AssetSync.readBody d.listing.size 0 [] (d.readings.map Reading.met) = some bytes)
          (Whole slot.final ((Caller.download d).Complete platform))
          fun _ after => after.final = slot.final ∧
            (after.temp = some data ∨
              after.temp = some (data.take (data.length - d.unflushed))) ∧ d.accepted = true ∧
              AssetSync.readBody d.listing.size 0 [] (d.readings.map Reading.met) = some data := by
        intro storage fates hpre
        obtain ⟨htemp, haccepted, hread⟩ := hpre.2 data rfl
        exact ((closeTemp_meets data d.unflushed).mono (fun _ h => h) hkept
          fun _ _ h => ⟨h.1, h.2, haccepted, hread⟩) storage fates ⟨hpre.1, htemp⟩
      refine hclose.bind fun _ => ?_
      refine ((hash_keeps fun _ h => h.1).mono (fun _ h => h) hkept fun _ _ h => h).bind fun hashed => ?_
      split_ifs with hverified
      · -- it is installed
        intro storage fates hpre
        obtain ⟨hfinal, htemp, haccepted, hread⟩ := hpre
        have hright := verified_some hverified
        obtain ⟨hnone, hclosed⟩ := hsafe data (delivered_download hclient haccepted hread hright)
        rw [hnone]
        exact activate_meets _ storage fates ⟨hfinal.trans hnone, data,
          closed_whole htemp hclosed, hright⟩
      · exact (giveUp_meets _).mono (fun _ h => h.1) (fun _ h => h) fun _ _ h => h

theorem writeText_meets (final text : Option Bytes) :
    Meets (writeText text) (fun slot => slot.final = final ∧ slot.temp = some [])
      (fun slot => slot.final = final)
      fun ok slot => slot.final = final ∧
        (ok = true → ∃ data, text = some data ∧ slot.temp = some data) := by
  cases text with
  | none => exact .pure fun _ h => ⟨h.1, fun hok => absurd hok (by decide)⟩
  | some data =>
    apply (writeTemp_meets [] data).mono
    · exact fun _ h => h
    · exact fun _ h => h
    · exact fun _ _ h => ⟨h.1, fun hok => ⟨data, rfl, h.2 hok⟩⟩

/-- The same of a manifest. -/
theorem writeManifest_meets (text : Option Bytes) (unflushed : ℕ) (slot : Slot)
    (hsafe : ∀ data, text = some data → slot.final = none ∧ (unflushed = 0 ∨ data = [])) :
    Meets (writeManifest text unflushed) (· = slot)
      (Whole slot.final ((Caller.manifest text unflushed).Complete platform))
      fun _ => Whole slot.final ((Caller.manifest text unflushed).Complete platform) := by
  have hkept : ∀ after : Slot, after.final = slot.final →
      Whole slot.final ((Caller.manifest text unflushed).Complete platform) after := fun _ h => .inl h
  have hopen := (openTemp_meets slot.final).mono
    (fun after (h : after = slot) => congrArg Slot.final h) hkept fun _ _ h => h
  refine hopen.bind ?_
  rintro (_ | _)
  · exact .pure fun after h => hkept after h.1
  rw [if_pos rfl]
  have hwrite := (writeText_meets slot.final text).mono
    (fun after (h : after.final = slot.final ∧ (true = true → after.temp = some [])) =>
      ⟨h.1, h.2 rfl⟩) hkept fun _ _ h => h
  refine hwrite.bind ?_
  rintro (_ | _)
  · refine ((closeTemp_keeps unflushed).mono (fun _ h => h.1) hkept fun _ _ h => h).bind fun _ => ?_
    exact giveUp_meets _
  · have hclose : Meets (closeTemp unflushed)
        (fun after => after.final = slot.final ∧
          (true = true → ∃ data, text = some data ∧ after.temp = some data))
        (Whole slot.final ((Caller.manifest text unflushed).Complete platform))
        fun _ after => after.final = slot.final ∧ ∃ data, text = some data ∧
          (after.temp = some data ∨ after.temp = some (data.take (data.length - unflushed))) := by
      intro storage fates hpre
      obtain ⟨data, htext, htemp⟩ := hpre.2 rfl
      exact ((closeTemp_meets data unflushed).mono (fun _ h => h) hkept
        fun _ _ h => ⟨h.1, data, htext, h.2⟩) storage fates ⟨hpre.1, htemp⟩
    refine hclose.bind fun _ => ?_
    rw [if_pos rfl]
    intro storage fates hpre
    obtain ⟨hfinal, data, htext, htemp⟩ := hpre
    obtain ⟨hnone, hclosed⟩ := hsafe data htext
    rw [hnone]
    exact activate_meets _ storage fates
      ⟨hfinal.trans hnone, data, closed_whole htemp hclosed, htext⟩

end interrupted

/-! ### Where a call can get -/

section reachable

/-- The body can be read and written as it is sent. -/
theorem readBody_can {final : Option Bytes} {expectedSize idleRetries : ℕ} {data body : Bytes}
    {readings : List Reading}
    (h : AssetSync.readBody expectedSize idleRetries data (readings.map Reading.met) = some body) :
    CanReturn (readBody expectedSize idleRetries data readings) ⟨final, some data⟩ (some body)
      ⟨final, some body⟩ := by
  induction readings generalizing idleRetries data with
  | nil =>
    obtain rfl := Option.some.inj h
    exact .pure
  | cons reading readings ih =>
    cases reading with
    | again =>
      rw [List.map_cons, Reading.met, AssetSync.readBody] at h
      split_ifs at h with hidle
      rw [readBody, if_pos (show idleRetries < kReadMaxIdleRetries from hidle)]
      exact ih h
    | failed => cases h
    | chunk bytes =>
      rw [List.map_cons, Reading.met, AssetSync.readBody] at h
      rw [readBody]
      by_cases hempty : bytes = []
      · rw [if_pos hempty] at h ⊢
        obtain rfl := Option.some.inj h
        exact .pure
      · rw [if_neg hempty] at h ⊢
        rw [if_neg (by decide)] at h
        refine CanReturn.bind (.change_works _ _) ?_
        rw [if_pos rfl]
        split_ifs at h ⊢ with hfull
        · obtain rfl := Option.some.inj h
          exact .pure
        · exact ih h

/-- What is left in the temporary file, by whether closing it works. -/
def closedBytes (data : Bytes) (unflushed : ℕ) (works : Bool) : Bytes :=
  if works then data else data.take (data.length - unflushed)

theorem closeTemp_can (final : Option Bytes) (data : Bytes) (unflushed : ℕ) (works : Bool) :
    CanReturn (closeTemp unflushed) ⟨final, some data⟩ ()
      ⟨final, some (closedBytes data unflushed works)⟩ := by
  cases works with
  | true => exact .attempt_works _ _
  | false => exact .attempt_fails _ _

variable {platform}

/-- A call can get to where it installs what is delivered. -/
theorem call_becomes {caller : Caller} (h : caller.delivered platform = some data)
    (slot : Slot) (works : Bool) :
    CanBecome (caller.call platform) slot activate
      ⟨slot.final, some (closedBytes data caller.unflushed works)⟩ := by
  cases caller with
  | download d =>
    simp only [Caller.delivered] at h
    split_ifs at h with hready
    rw [Bool.and_eq_true] at hready
    obtain ⟨hclient, haccepted⟩ := hready
    have hread : AssetSync.readBody d.listing.size 0 [] (d.readings.map Reading.met) = some data ∧
        data.length = d.listing.size ∧ platform.sha256 data = d.listing.sha256 := by
      unfold received at h
      split at h
      · cases h
      · rename_i bytes hbytes
        split_ifs at h with hright
        obtain rfl := Option.some.inj h
        exact ⟨hbytes, hright⟩
    have hverified : verified platform d.listing true (some data) = true := by
      simp only [verified, hread.2.1, hread.2.2, decide_true, Bool.and_self]
    show CanBecome (downloadAssetFile platform d) slot activate _
    unfold downloadAssetFile
    rw [hclient, if_neg (by decide)]
    refine CanBecome.bind (.change_works _ _) ?_
    rw [if_pos rfl]
    have hresponse : CanReturn (readResponse d) ⟨slot.final, some []⟩ (some data)
        ⟨slot.final, some data⟩ := by
      rw [readResponse, if_pos haccepted]
      exact readBody_can hread.1
    refine CanBecome.bind hresponse ?_
    refine CanBecome.bind (closeTemp_can _ data _ works) ?_
    refine CanBecome.bind (.change_works _ _) ?_
    rw [if_pos hverified]
    exact .refl _ _
  | manifest text unflushed =>
    simp only [Caller.delivered] at h
    subst h
    show CanBecome (writeManifest (some data) unflushed) slot activate _
    unfold writeManifest
    refine CanBecome.bind (.change_works _ _) ?_
    rw [if_pos rfl]
    have hwrite : CanReturn (writeText (some data)) ⟨slot.final, some []⟩ true
        ⟨slot.final, some data⟩ := .change_works _ _
    refine CanBecome.bind hwrite ?_
    refine CanBecome.bind (closeTemp_can _ data _ works) ?_
    rw [if_pos rfl]
    exact .refl _ _

/-- Where a file is installed, it can be gone. -/
theorem activate_can_fail (old bytes : Bytes) :
    CanReturn activate ⟨some old, some bytes⟩ false ⟨none, none⟩ := by
  refine CanReturn.bind (.attempt_works _ _) ?_
  refine CanReturn.bind (.attempt_fails _ _) ?_
  exact CanReturn.bind (.attempt_works _ _) .pure

/-- What is in the temporary file can be installed before power is lost. -/
theorem activate_can_lose (bytes : Bytes) :
    CanLose activate ⟨none, some bytes⟩ ⟨some bytes, none⟩ := by
  refine CanLose.bind_right (.attempt_works _ _) ?_
  refine CanLose.bind_right (.attempt_works _ _) ?_
  exact CanLose.bind_left (.attempt _ _)

end reachable

/-- What is delivered has the length of what is complete. -/
theorem Caller.length_eq {caller : Caller} {platform : Platform} {data content : Bytes}
    (h : caller.delivered platform = some data) (hcomplete : caller.Complete platform content) :
    content.length = data.length := by
  cases caller with
  | download d =>
    simp only [Caller.delivered] at h
    split_ifs at h with hready
    exact hcomplete.1.trans (AssetSync.received_some h).1.symm
  | manifest text unflushed =>
    simp only [Caller.delivered] at h
    obtain rfl := Option.some.inj (h.symm.trans hcomplete)
    rfl

/-- **A call that does not end in success keeps the installed file.** -/
theorem replaced_safely_iff (caller : Caller) (slot : Slot) :
    ReplacedSafely platform caller slot ↔
      ∀ data, caller.delivered platform = some data →
        slot.final = none ∧ (caller.unflushed = 0 ∨ data = []) := by
  constructor
  · intro hkept data hdelivered
    have hnone : slot.final = none := by
      by_contra hsome
      obtain ⟨old, hold⟩ := Option.ne_none_iff_exists'.mp hsome
      have hbecomes := call_becomes hdelivered slot true
      rw [hold] at hbecomes
      obtain ⟨fates, hfates⟩ :=
        hbecomes.canReturn (activate_can_fail old _) fun _ => .works
      have hwhole := hkept fates (by rw [hfates]; decide)
      rw [hfates, Kept, hold] at hwhole
      rcases hwhole with hsame | ⟨content, hcontent, -⟩
      · cases hsame
      · cases hcontent
    refine ⟨hnone, ?_⟩
    have hbecomes := call_becomes hdelivered slot false
    rw [hnone] at hbecomes
    obtain ⟨fates, hfates⟩ := hbecomes.canLose (activate_can_lose _)
    have hwhole := hkept fates (by rw [hfates]; exact (Option.some_ne_none _).symm)
    rw [hfates, Kept, hnone] at hwhole
    rcases hwhole with hsame | ⟨content, hcontent, hcomplete⟩
    · cases hsame
    · obtain rfl := Option.some.inj hcontent
      have hlength := caller.length_eq hdelivered hcomplete
      rw [closedBytes, if_neg (by decide), List.length_take] at hlength
      by_cases hdata : data = []
      · exact .inr hdata
      · have := List.length_pos_iff.mpr hdata
        omega
  · intro hsafe fates _
    cases caller with
    | download d => exact (downloadAssetFile_meets d slot hsafe).storage rfl fates
    | manifest text unflushed =>
      exact (writeManifest_meets text unflushed slot hsafe).storage rfl fates

/-- A new sound of one byte, which is served and passes the checks. -/
def chime : Download where
  listing :=
    { directory := AssetSync.ascii "/sdcard/hexe/sounds"
      mediaType := AssetSync.ascii "sound"
      filename := AssetSync.ascii "chime.wav"
      sha256 :=
        AssetSync.ascii "dbc1b4c900ffe48d575b5da5c638040125f65db0fe3e24494b76ea986457d986"
      size := 1 }
  client := true
  accepted := true
  readings := [.chunk [2]]
  unflushed := 0

/-- A card that tells all names apart, with the digest of that sound. -/
def card : Platform where
  file := id
  sha256 := fun bytes => if bytes = [2] then chime.listing.sha256 else []

/-- Power is lost between removing the old sound and renaming the new one. -/
theorem chime_lost : ¬ ReplacedSafely card (.download chime) ⟨some [1], none⟩ := by
  intro hkept
  have hlost : (Caller.call card (.download chime) ⟨some [1], none⟩
      fun k => if k = 5 then .powerLost else .works) = .lost ⟨none, some [2]⟩ := by rfl
  have hwhole := hkept (fun k => if k = 5 then .powerLost else .works) (by rw [hlost]; decide)
  rw [hlost] at hwhole
  rcases hwhole with hsame | ⟨content, hcontent, -⟩
  · cases hsame
  · cases hcontent

end HexeVoice.Firmware.AssetReplaced
