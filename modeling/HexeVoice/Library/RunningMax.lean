import Mathlib

/-!
# A running maximum

`List.argmax f l` is the first element of `l` at which `f` is greatest. Over a list that
arrives one element at a time the leader can be kept without keeping the list: a new
element takes the lead exactly when it beats the leader, which is when it beats every
element before it, and the elements that did not take the lead can be forgotten.
-/

namespace HexeVoice.Library

variable {α β : Type*} [LinearOrder β] {f : α → β}

/-- A new element beats the leader when it beats every element. -/
theorem lt_argmax_iff {l : List α} {w c : α} (hw : l.argmax f = some w) :
    f w < f c ↔ ∀ x ∈ l, f x < f c := by
  constructor
  · intro h x hx
    exact (List.le_of_mem_argmax hx hw).trans_lt h
  · intro h
    exact h w (List.argmax_mem hw)

/-- A new element that beats the leader is the leader. -/
theorem argmax_concat_of_lt {l : List α} {w c : α} (hw : l.argmax f = some w) (h : f w < f c) :
    (l ++ [c]).argmax f = some c := by
  simp [List.argmax_concat, hw, h]

/-- A new element that does not beat the leader leaves it the leader: of equals, the first
stays. -/
theorem argmax_concat_of_not_lt {l : List α} {w c : α} (hw : l.argmax f = some w)
    (h : ¬ f w < f c) : (l ++ [c]).argmax f = some w := by
  simp [List.argmax_concat, hw, h]

/-- Two lists with one leader have one leader after a new element. -/
theorem argmax_concat_congr {l l' : List α} (h : l.argmax f = l'.argmax f) (c : α) :
    (l ++ [c]).argmax f = (l' ++ [c]).argmax f := by
  simp [List.argmax_concat, h]

end HexeVoice.Library
