import Mathlib

/-!
# Frames in a stream

A decoder takes one value at a time from the front of a buffer, to which chunks of a stream are appended.
Taking may raise.

## What is proved

**`receive_wire`**: where each frame is decoded as soon as it is whole and not before, a stream of frames
that comes in any chunks is decoded frame by frame: after each chunk the frames that are whole have been
taken, and what is left in the buffer is the beginning of the next.
-/

namespace HexeVoice.Library

/-- A decoder: the value that is taken, if any, or the exception, and what is left in the buffer. -/
structure Decoder (α β ε : Type*) where
  pop : List β → Except ε (Option α) × List β
  shrinks : ∀ {buffer a rest}, pop buffer = (.ok (some a), rest) → rest.length < buffer.length

/-- What was taken so far, what is left, and the exception that ended it. -/
structure Drained (α β ε : Type*) where
  popped : List α
  rest : List β
  raised : Option ε

namespace Decoder

variable {α β ε ω : Type*} (d : Decoder α β ε)

/-- Values are taken until there is none. -/
def drain (buffer : List β) : Drained α β ε :=
  match h : d.pop buffer with
  | (.ok (some a), rest) =>
    have : rest.length < buffer.length := d.shrinks h
    let more := drain rest
    ⟨a :: more.popped, more.rest, more.raised⟩
  | (.ok none, rest) => ⟨[], rest, none⟩
  | (.error e, rest) => ⟨[], rest, some e⟩
termination_by buffer.length

/-- A chunk comes, unless an exception has ended it. -/
def feed (state : Drained α β ε) (chunk : List β) : Drained α β ε :=
  match state.raised with
  | some _ => state
  | none =>
    let more := d.drain (state.rest ++ chunk)
    ⟨state.popped ++ more.popped, more.rest, more.raised⟩

/-- The chunks come one by one. -/
def receive (chunks : List (List β)) : Drained α β ε := chunks.foldl d.feed ⟨[], [], none⟩

variable {d}

theorem drain_of_some {buffer rest : List β} {a : α} (h : d.pop buffer = (.ok (some a), rest)) :
    d.drain buffer = ⟨a :: (d.drain rest).popped, (d.drain rest).rest, (d.drain rest).raised⟩ := by
  rw [drain]
  split
  next heq =>
    rw [h] at heq
    obtain ⟨rfl, rfl⟩ : a = _ ∧ rest = _ := by simpa using heq
    rfl
  next heq => simp [h] at heq
  next heq => simp [h] at heq

theorem drain_of_none {buffer rest : List β} (h : d.pop buffer = (.ok none, rest)) :
    d.drain buffer = ⟨[], rest, none⟩ := by
  rw [drain]
  split
  next heq => simp [h] at heq
  next heq =>
    rw [h] at heq
    obtain rfl : rest = _ := by simpa using heq
    rfl
  next heq => simp [h] at heq

theorem drain_of_error {buffer rest : List β} {e : ε} (h : d.pop buffer = (.error e, rest)) :
    d.drain buffer = ⟨[], rest, some e⟩ := by
  rw [drain]
  split
  next heq => simp [h] at heq
  next heq => simp [h] at heq
  next heq =>
    rw [h] at heq
    obtain ⟨rfl, rfl⟩ : e = _ ∧ rest = _ := by simpa using heq
    rfl

/-- Where nothing can be taken, nothing is. -/
theorem popped_drain_eq_nil {buffer : List β} (h : ∀ a rest, d.pop buffer ≠ (.ok (some a), rest)) :
    (d.drain buffer).popped = [] := by
  cases hpop : d.pop buffer with
  | mk outcome rest =>
    cases outcome with
    | error e => rw [drain_of_error hpop]
    | ok value =>
      cases value with
      | none => rw [drain_of_none hpop]
      | some a => exact absurd hpop (h a rest)

/-! ### Frames -/

/-- How the frame is written, and which value it stands for. -/
structure Format (ω α β : Type*) where
  wire : ω → List β
  value : ω → α

/-- The decoder takes a frame when it is whole, and nothing before. -/
structure Reads (d : Decoder α β ε) (format : Format ω α β) (frame : ω) : Prop where
  whole : ∀ rest, d.pop (format.wire frame ++ rest) = (.ok (some (format.value frame)), rest)
  part : ∀ bytes, bytes <+: format.wire frame → bytes ≠ format.wire frame →
    d.pop bytes = (.ok none, bytes)

/-- The buffer holds the beginning of the next frame. -/
def Waiting (format : Format ω α β) (left : List ω) (rest : List β) : Prop :=
  match left with
  | [] => rest = []
  | frame :: _ => rest <+: format.wire frame ∧ rest ≠ format.wire frame

variable {format : Format ω α β}

/-- Whole frames are taken from the beginning of a stream, and the rest waits. -/
theorem drain_wire (hempty : d.pop [] = (.ok none, [])) {frames : List ω}
    (hreads : ∀ frame ∈ frames, Reads d format frame) {bytes missing : List β}
    (h : bytes ++ missing = frames.flatMap format.wire) :
    ∃ done left, frames = done ++ left ∧
      d.drain bytes = ⟨done.map format.value, (d.drain bytes).rest, none⟩ ∧
      bytes = done.flatMap format.wire ++ (d.drain bytes).rest ∧
      Waiting format left (d.drain bytes).rest := by
  induction frames generalizing bytes with
  | nil =>
    obtain ⟨rfl, rfl⟩ : bytes = [] ∧ missing = [] := by simpa using h
    exact ⟨[], [], rfl, by simp [drain_of_none hempty], by simp [drain_of_none hempty],
      by simp [Waiting, drain_of_none hempty]⟩
  | cons frame frames ih =>
    rw [List.flatMap_cons] at h
    have hbytes : bytes <+: format.wire frame ++ frames.flatMap format.wire := ⟨missing, h⟩
    by_cases hwhole : format.wire frame <+: bytes
    · obtain ⟨more, rfl⟩ := hwhole
      rw [List.append_assoc, List.append_cancel_left_eq] at h
      obtain ⟨done, left, rfl, hdrain, hmore, hwaiting⟩ :=
        ih (fun f hf => hreads f (List.mem_cons_of_mem _ hf)) h
      have hpop := drain_of_some ((hreads frame (by simp)).whole more)
      refine ⟨frame :: done, left, rfl, ?_, ?_, ?_⟩
      · rw [hpop, hdrain]
        rfl
      · rw [hpop]
        simpa using hmore
      · rw [hpop]
        exact hwaiting
    · have hpart : bytes <+: format.wire frame :=
        (List.prefix_or_prefix_of_prefix hbytes (List.prefix_append _ _)).resolve_right hwhole
      have hne : bytes ≠ format.wire frame := fun heq => hwhole (heq ▸ List.prefix_rfl)
      have hpop := drain_of_none ((hreads frame (by simp)).part bytes hpart hne)
      exact ⟨[], frame :: frames, rfl, by simp [hpop], by simp [hpop], by simp [hpop, Waiting, hpart, hne]⟩

/-- **Frames in any chunks.** -/
theorem receive_wire (hempty : d.pop [] = (.ok none, [])) {frames : List ω}
    (hreads : ∀ frame ∈ frames, Reads d format frame) {chunks : List (List β)} {missing : List β}
    (h : chunks.flatten ++ missing = frames.flatMap format.wire) :
    ∃ done left, frames = done ++ left ∧
      d.receive chunks = ⟨done.map format.value, (d.receive chunks).rest, none⟩ ∧
      chunks.flatten = done.flatMap format.wire ++ (d.receive chunks).rest ∧
      Waiting format left (d.receive chunks).rest := by
  induction chunks using List.reverseRecOn generalizing missing with
  | nil =>
    refine ⟨[], frames, rfl, rfl, rfl, ?_⟩
    cases frames with
    | nil => rfl
    | cons frame frames =>
      refine ⟨List.nil_prefix, fun heq => ?_⟩
      have hpop := (hreads frame (by simp)).whole []
      have hnil : format.wire frame = [] := heq.symm
      rw [hnil, List.append_nil, hempty] at hpop
      simp at hpop
  | append_singleton chunks chunk ih =>
    rw [List.flatten_append, List.flatten_cons, List.flatten_nil, List.append_nil] at h ⊢
    have hbefore : chunks.flatten ++ (chunk ++ missing) = frames.flatMap format.wire := by simpa using h
    obtain ⟨done, left, rfl, hstate, hbytes, -⟩ := ih hbefore
    obtain ⟨rest, hrest⟩ : ∃ rest, (d.receive chunks).rest = rest := ⟨_, rfl⟩
    rw [hrest] at hstate hbytes
    have hleft : rest ++ chunk ++ missing = left.flatMap format.wire := by
      rw [hbytes, List.flatMap_append] at h
      simpa using h
    obtain ⟨more, left', rfl, hdrain, hmore, hwaiting⟩ :=
      drain_wire hempty (fun f hf => hreads f (List.mem_append_right _ hf)) hleft
    have hfeed : d.receive (chunks ++ [chunk]) =
        ⟨done.map format.value ++ (d.drain (rest ++ chunk)).popped, (d.drain (rest ++ chunk)).rest,
          (d.drain (rest ++ chunk)).raised⟩ := by
      rw [receive, List.foldl_append, List.foldl_cons, List.foldl_nil, ← receive, hstate]
      rfl
    refine ⟨done ++ more, left', by simp, ?_, ?_, ?_⟩
    · rw [hfeed, hdrain]
      simp
    · rw [hfeed, hbytes, List.flatMap_append, List.append_assoc, List.append_assoc, ← hmore]
    · rw [hfeed]
      exact hwaiting

/-- After all chunks all frames have been taken, and nothing is left. -/
theorem receive_all (hempty : d.pop [] = (.ok none, [])) {frames : List ω}
    (hreads : ∀ frame ∈ frames, Reads d format frame) {chunks : List (List β)}
    (h : chunks.flatten = frames.flatMap format.wire) :
    d.receive chunks = ⟨frames.map format.value, [], none⟩ := by
  have hnone : chunks.flatten ++ [] = frames.flatMap format.wire := by simpa using h
  obtain ⟨done, left, rfl, hstate, hbytes, hwaiting⟩ := receive_wire hempty hreads hnone
  have hleft : (d.receive chunks).rest = left.flatMap format.wire := by
    rw [h, List.flatMap_append] at hbytes
    exact (List.append_cancel_left hbytes).symm
  cases left with
  | nil =>
    rw [hstate, hleft]
    simp
  | cons frame left =>
    -- A part of a frame is not the frame and more.
    obtain ⟨hbeginning, hne⟩ := hwaiting
    have hlength := hbeginning.length_le
    rw [hleft, List.flatMap_cons] at hlength hne
    have hnil : left.flatMap format.wire = [] :=
      List.eq_nil_of_length_eq_zero (by rw [List.length_append] at hlength; omega)
    simp [hnil] at hne

end Decoder

end HexeVoice.Library
