import HexeVoice.Library.Pydantic

/-!
# Entries of a JSON value at any depth

## What is proved

`anyEntry` says that some entry of an object in the value, at any depth, is as `p` says. What is set
in an object counts by its mark alone (`marks_set`).
-/

namespace HexeVoice.Library

namespace Json

mutual

/-- Some entry at any depth is as `p` says. -/
def anyEntry (p : String → Json → Bool) : Json → Bool
  | .obj entries => anyDict p entries
  | .arr items => anyItem p items
  | _ => false

private def anyDict (p : String → Json → Bool) : Dict String Json → Bool
  | ⟨entries⟩ => anyList p entries

private def anyList (p : String → Json → Bool) : List (String × Json) → Bool
  | [] => false
  | entry :: entries => anyPair p entry || anyList p entries

private def anyPair (p : String → Json → Bool) : String × Json → Bool
  | (key, value) => p key value || anyEntry p value

private def anyItem (p : String → Json → Bool) : List Json → Bool
  | [] => false
  | item :: items => anyEntry p item || anyItem p items

end

variable {p : String → Json → Bool}

theorem anyEntry_obj (entries : JsonObject) : anyEntry p (.obj entries) =
    entries.entries.any fun entry => p entry.1 entry.2 || anyEntry p entry.2 := by
  obtain ⟨entries⟩ := entries
  rw [anyEntry, anyDict]
  dsimp only
  induction entries with
  | nil => rfl
  | cons entry entries ih => rw [anyList, anyPair, ih, List.any_cons]

theorem anyEntry_arr (items : List Json) : anyEntry p (.arr items) = items.any (anyEntry p) := by
  rw [anyEntry]
  induction items with
  | nil => rfl
  | cons item items ih => rw [anyItem, ih, List.any_cons]

@[simp] theorem anyEntry_null : anyEntry p .null = false := rfl

@[simp] theorem anyEntry_str (s : String) : anyEntry p (.str s) = false := rfl

@[simp] theorem anyEntry_int (n : ℤ) : anyEntry p (.int n) = false := rfl

@[simp] theorem anyEntry_bool (b : Bool) : anyEntry p (.bool b) = false := rfl

@[simp] theorem anyEntry_float (x : PyFloat) : anyEntry p (.float x) = false := rfl

@[simp] theorem anyEntry_ofText (s : Option String) : anyEntry p (ofText s) = false := by
  cases s <;> rfl

@[simp] theorem anyEntry_ofInt (n : Option ℤ) : anyEntry p (ofInt n) = false := by
  cases n <;> rfl

@[simp] theorem anyEntry_ofBool (b : Option Bool) : anyEntry p (ofBool b) = false := by
  cases b <;> rfl

@[simp] theorem anyEntry_ofTexts (texts : List String) : anyEntry p (ofTexts texts) = false := by
  rw [ofTexts, anyEntry_arr, List.any_map]
  exact List.any_eq_false.mpr fun s _ => by simp

@[simp] theorem anyEntry_ofMapping_none : anyEntry p (ofMapping none) = false := rfl

/-! ### Marks -/

/-- Which entries of an object are, or have at any depth, one that is as `p` says. -/
def marks (p : String → Json → Bool) (entries : JsonObject) : Dict String Bool :=
  entries.mapEntries fun key value => p key value || anyEntry p value

theorem anyEntry_obj_marks (entries : JsonObject) :
    anyEntry p (.obj entries) = (marks p entries).values.any id := by
  rw [anyEntry_obj, marks, Dict.values, Dict.mapEntries, List.map_map, List.any_map]
  rfl

theorem marks_set (entries : JsonObject) (key : String) (value : Json) :
    marks p (entries.set key value) = (marks p entries).set key (p key value || anyEntry p value) :=
  Dict.mapEntries_set _ entries key value

end Json

end HexeVoice.Library
