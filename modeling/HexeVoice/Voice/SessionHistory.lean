import HexeVoice.Library.JsonEquality
import HexeVoice.Library.Machine
import HexeVoice.Library.Python
import HexeVoice.Library.Recency
import Mathlib

/-!
# The history of voice sessions

`voice_session_history.py`: the store that keeps the records of the last sessions in a file.

## The model

A record is any JSON object. The file gives back the records that were written to it. `utc_now_iso()` is
read once in each call and comes with it.

## What is proved

**`history_found_iff`**: after any calls the file holds the sessions that were upserted last, the latest
first and each with its latest record; and they are all found under the ids that they were passed with
exactly if these ids are texts without blanks at their ends.
-/

namespace HexeVoice.Voice.SessionHistory

open HexeVoice.Library

variable (py : Python)

/-! ### The store -/

/-- `VoiceSessionHistoryStore.__init__`: how many records are kept. -/
def maxRecords (max_records : ℤ) : ℕ := (max 1 max_records).toNat

/-- `str(record.get("session_id") or "").strip()`. -/
def normalizedId (record : JsonObject) : String := strip (py.firstText [record.get "session_id"])

/-- The record as it is stored. -/
def normalized (record : JsonObject) (now : String) : JsonObject :=
  (record.set "session_id" (.str (normalizedId py record))).set "updated_at" (.str now)

/-- `session.get("session_id") == session_id`. -/
def hasId (session_id : Json) (session : JsonObject) : Bool :=
  Json.eq ((session.get "session_id").getD .null) session_id

/-- A call of `upsert_session`, and the time it is made at. -/
structure Upsert where
  record : JsonObject
  now : String

/-- `upsert_session`: what is returned, and the sessions in the file. -/
def upsertSession (max_records : ℤ) (sessions : List JsonObject) (call : Upsert) :
    Except PyException (JsonObject × List JsonObject) :=
  let session_id := normalizedId py call.record
  if session_id = "" then .error .valueError
  else
    let record := normalized py call.record call.now
    let others := sessions.filter fun session => !hasId (.str session_id) session
    .ok (record, (record :: others).take (maxRecords max_records))

def getSession (sessions : List JsonObject) (session_id : Json) : Option JsonObject :=
  sessions.find? (hasId session_id)

/-- The sessions after a call; one that raises changes nothing. -/
def step (max_records : ℤ) (sessions : List JsonObject) (call : Upsert) : List JsonObject :=
  match upsertSession py max_records sessions call with
  | .ok (_, sessions) => sessions
  | .error _ => sessions

/-! ### The map it stands for -/

/-- The id of a stored session. -/
def storedId (session : JsonObject) : Option String := (session.get "session_id").bind Json.str?

/-- The records that the calls stored, in order. -/
def stored (calls : List Upsert) : List JsonObject :=
  (calls.filter fun call => normalizedId py call.record ≠ "").map fun call =>
    normalized py call.record call.now

/-- What a call stored is found under the id that it was passed with, while it is in the file. -/
def Found (calls : List Upsert) (sessions : List JsonObject) : Prop :=
  ∀ call ∈ calls, normalized py call.record call.now ∈ sessions →
    ∀ session_id, call.record.get "session_id" = some session_id →
      getSession sessions session_id = some (normalized py call.record call.now)

/-- The id is a text without blanks at its ends. -/
def ProperId (call : Upsert) : Prop :=
  call.record.get "session_id" = some (.str (normalizedId py call.record))

/-! ### Ids -/

theorem hasId_str_iff {session : JsonObject} {id : String} :
    hasId (.str id) session = true ↔ storedId session = some id := by
  rw [hasId, Json.eq_str_iff, storedId]
  cases session.get "session_id" with
  | none => simp
  | some value =>
    cases value with
    | str s => simp [Json.str?]
    | _ => simp [Json.str?]

@[simp] theorem get_normalized (record : JsonObject) (now : String) :
    (normalized py record now).get "session_id" = some (.str (normalizedId py record)) := by
  rw [normalized, Dict.get_set_of_ne _ _ (by decide), Dict.get_set_self]

@[simp] theorem storedId_normalized (record : JsonObject) (now : String) :
    storedId (normalized py record now) = some (normalizedId py record) := by
  simp [storedId, Json.str?]

theorem one_le_maxRecords (max_records : ℤ) : 1 ≤ maxRecords max_records := by
  simp only [maxRecords]
  omega

/-! ### Any calls -/

variable {py}

/-- A call of a session puts its record in front of the others. -/
theorem step_eq_touch (max_records : ℤ) (sessions : List JsonObject) {call : Upsert}
    (h : normalizedId py call.record ≠ "") :
    step py max_records sessions call =
      touch storedId (maxRecords max_records) sessions (normalized py call.record call.now) := by
  have hothers : (sessions.filter fun session =>
        !hasId (.str (normalizedId py call.record)) session) =
      sessions.filter fun session =>
        storedId session ≠ storedId (normalized py call.record call.now) := by
    apply List.filter_congr
    intro session _
    rw [storedId_normalized, Bool.eq_iff_iff]
    simp [← hasId_str_iff]
  simp only [step, upsertSession, if_neg h, touch, hothers]

theorem step_of_blank (max_records : ℤ) (sessions : List JsonObject) {call : Upsert}
    (h : normalizedId py call.record = "") : step py max_records sessions call = sessions := by
  simp [step, upsertSession, h]

/-- A run is one of the list of the most recent records. -/
theorem run_eq_touch (max_records : ℤ) (calls : List Upsert) (sessions : List JsonObject) :
    run (step py max_records) sessions calls =
      (stored py calls).foldl (touch storedId (maxRecords max_records)) sessions := by
  induction calls generalizing sessions with
  | nil => rfl
  | cons call calls ih =>
    rw [run_cons, ih]
    by_cases h : normalizedId py call.record = ""
    · rw [step_of_blank max_records sessions h]
      simp [stored, h]
    · rw [step_eq_touch max_records sessions h]
      simp [stored, h]

/-- **The map of the last sessions**: what the file holds after any calls. -/
theorem recent_sessions (max_records : ℤ) (calls : List Upsert) :
    Recent storedId (maxRecords max_records) (stored py calls)
      (run (step py max_records) [] calls) := by
  obtain ⟨n, hn⟩ : ∃ n, maxRecords max_records = n + 1 :=
    ⟨maxRecords max_records - 1, by have := one_le_maxRecords max_records; omega⟩
  rw [run_eq_touch, hn]
  exact recent_run n (stored py calls)

/-- Among different ids, a session is what its id finds. -/
theorem getSession_of_mem {sessions : List JsonObject} (h : (sessions.map storedId).Nodup)
    {session : JsonObject} (hmem : session ∈ sessions) {id : String}
    (hid : storedId session = some id) : getSession sessions (.str id) = some session := by
  cases hfound : getSession sessions (.str id) with
  | none =>
    have hnot := List.find?_eq_none.mp hfound session hmem
    exact absurd (hasId_str_iff.mpr hid) hnot
  | some found =>
    have hfoundId : storedId found = some id := hasId_str_iff.mp (List.find?_some hfound)
    have hfoundMem : found ∈ sessions := List.mem_of_find?_eq_some hfound
    have hsame : found = session :=
      List.inj_on_of_nodup_map h hfoundMem hmem (hfoundId.trans hid.symm)
    rw [hsame]

/-- The call that was made last finds its record under a proper id only. -/
theorem proper_of_found {max_records : ℤ} {calls : List Upsert} {call : Upsert}
    (h : normalizedId py call.record ≠ "")
    (hfound : Found py (calls ++ [call]) (run (step py max_records) [] (calls ++ [call]))) :
    ProperId py call := by
  have hfirst : normalized py call.record call.now ∈
      run (step py max_records) [] (calls ++ [call]) := by
    obtain ⟨n, hn⟩ : ∃ n, maxRecords max_records = n + 1 :=
      ⟨maxRecords max_records - 1, by have := one_le_maxRecords max_records; omega⟩
    rw [run_append, run_cons, run_nil, step_eq_touch max_records _ h, hn]
    simp [touch]
  cases hraw : call.record.get "session_id" with
  | none =>
    -- Nothing is read as the empty text, which is refused.
    have hblank : normalizedId py call.record = "" := by
      simp only [normalizedId, Python.firstText, hraw]
      rfl
    exact absurd hblank h
  | some raw =>
    have hget := hfound call (by simp) hfirst raw hraw
    have heq := List.find?_some hget
    rw [hasId, get_normalized, Option.getD_some, Json.str_eq_iff] at heq
    rw [ProperId, hraw, heq]

variable (py)

/-- **Sessions are found under the ids they came with exactly if these are proper.** -/
theorem history_found_iff (max_records : ℤ) (calls : List Upsert) :
    (∀ taken, taken <+: calls →
        Recent storedId (maxRecords max_records) (stored py taken)
          (run (step py max_records) [] taken) ∧
        ((run (step py max_records) [] taken).map storedId).Nodup ∧
        Found py taken (run (step py max_records) [] taken)) ↔
      ∀ call ∈ calls, normalizedId py call.record ≠ "" → ProperId py call := by
  constructor
  · intro hall call hmem hid
    obtain ⟨before, after, rfl⟩ := List.append_of_mem hmem
    obtain ⟨-, -, hfound⟩ := hall (before ++ [call]) ⟨after, by simp⟩
    exact proper_of_found hid hfound
  · intro hproper taken htaken
    have hrecent : Recent storedId (maxRecords max_records) (stored py taken)
        (run (step py max_records) [] taken) := recent_sessions max_records taken
    refine ⟨hrecent, hrecent.nodup, fun call hcall hmem raw hraw => ?_⟩
    by_cases hid : normalizedId py call.record = ""
    · -- What is stored has an id, so this call is not among it.
      have hlast := hrecent.last _ hmem
      have hstored : normalized py call.record call.now ∈ stored py taken :=
        List.mem_reverse.mp (List.mem_of_find?_eq_some hlast)
      obtain ⟨other, hother, hsame⟩ := List.mem_map.mp hstored
      have hsameId := congrArg storedId hsame
      simp only [storedId_normalized, hid, Option.some.injEq] at hsameId
      simp [hsameId] at hother
    · have heq : raw = .str (normalizedId py call.record) :=
        Option.some.inj (hraw.symm.trans (hproper call (htaken.subset hcall) hid))
      rw [heq]
      exact getSession_of_mem hrecent.nodup hmem (storedId_normalized py ..)

/-! ### A padded id -/

/-- The id has a blank in front. -/
def padded : Upsert := ⟨⟨[("session_id", .str " kitchen")]⟩, "2026-01-01T00:00:00+00:00"⟩

/-- The session is in the file, and its id finds nothing. -/
theorem padded_id_not_found :
    ¬ Found .ascii [padded] (run (step .ascii 100) [] [padded]) := by
  have hfile : run (step .ascii 100) [] [padded] =
      [normalized .ascii padded.record padded.now] := rfl
  have hid : normalizedId .ascii padded.record = "kitchen" := by decide
  have hnone : getSession [normalized .ascii padded.record padded.now] (.str " kitchen") = none := by
    simp [getSession, hasId_str_iff, hid]
  intro h
  have hget := h padded (by simp) (by simp [hfile]) (.str " kitchen") rfl
  rw [hfile, hnone] at hget
  cases hget

end HexeVoice.Voice.SessionHistory
