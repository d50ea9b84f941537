import HexeVoice.Library.Json

/-!
# Validating JSON values

What the fields of a `pydantic` model make of a JSON value, and the models' fields with their
defaults.

## The model

Numbers and texts are taken for each other as the lax mode does it. What it reads in a text is a
parameter (`Pydantic`).
-/

namespace HexeVoice.Library

/-- What the lax mode reads in a text. -/
structure Pydantic where
  int : String → Option ℤ
  bool : String → Option Bool

namespace Json

/-- `value.get(key)`, of an object. -/
def item (value : JsonObject) (key : String) : Json := (value.get key).getD .null

/-- `a or b`. -/
def or (a b : Json) : Json := if a.truthy then a else b

/-- A field of type `str`. -/
def text : Json → Option String
  | .str s => some s
  | _ => none

/-- A field of type `dict[str, Any]`. -/
def mapping : Json → Option JsonObject
  | .obj entries => some entries
  | _ => none

/-- A field of type `T | None`. -/
def optional {α : Type} (field : Json → Option α) : Json → Option (Option α)
  | .null => some none
  | value => (field value).map some

/-- A field of type `list[T]`. -/
def list {α : Type} (field : Json → Option α) : Json → Option (List α)
  | .arr items => items.mapM field
  | _ => none

/-- A field of type `dict[str, T]`. -/
def dict {α : Type} (field : Json → Option α) : Json → Option (Dict String α)
  | .obj entries =>
    (entries.entries.mapM fun entry => (field entry.2).map fun value => (entry.1, value)).map .mk
  | _ => none

/-- What a field makes of the entry for its name, if there is one. -/
def field {α : Type} (value : JsonObject) (name : String) (field : Json → Option α) (default : α) :
    Option α :=
  match value.get name with
  | some value => field value
  | none => some default

/-- The value of an optional text. -/
def ofText (s : Option String) : Json := (s.map .str).getD .null

/-- The value of an optional whole number. -/
def ofInt (n : Option ℤ) : Json := (n.map .int).getD .null

/-- The value of an optional truth value. -/
def ofBool (b : Option Bool) : Json := (b.map .bool).getD .null

/-- The value of an optional object. -/
def ofMapping (entries : Option JsonObject) : Json := (entries.map .obj).getD .null

/-- The value of a list of texts. -/
def ofTexts (texts : List String) : Json := .arr (texts.map .str)

/-- The value of a map of objects. -/
def ofMappings (entries : Dict String JsonObject) : Json :=
  .obj ⟨entries.entries.map fun entry => (entry.1, .obj entry.2)⟩

end Json

namespace Pydantic

variable (pydantic : Pydantic)

/-- A field of type `int`. -/
def integer : Json → Option ℤ
  | .int n => some n
  | .bool b => some (if b then 1 else 0)
  | .float (.finite q) => if q.den = 1 then some q.num else none
  | .str s => pydantic.int s
  | _ => none

/-- A field of type `bool`. -/
def boolean : Json → Option Bool
  | .bool b => some b
  | .int 0 | .float (.finite 0) => some false
  | .int 1 | .float (.finite 1) => some true
  | .str s => pydantic.bool s
  | _ => none

end Pydantic

/-! ### What is written is read back -/

section roundTrip

@[simp] theorem text_str (s : String) : Json.text (.str s) = some s := rfl

@[simp] theorem integer_int (pydantic : Pydantic) (n : ℤ) : pydantic.integer (.int n) = some n := rfl

@[simp] theorem boolean_bool (pydantic : Pydantic) (b : Bool) :
    pydantic.boolean (.bool b) = some b := rfl

@[simp] theorem mapping_obj (entries : JsonObject) : Json.mapping (.obj entries) = some entries := rfl

@[simp] theorem optional_text (s : Option String) :
    Json.optional Json.text (Json.ofText s) = some s := by
  cases s <;> rfl

@[simp] theorem optional_mapping (entries : Option JsonObject) :
    Json.optional Json.mapping (Json.ofMapping entries) = some entries := by
  cases entries <;> rfl

@[simp] theorem optional_integer (pydantic : Pydantic) (n : Option ℤ) :
    Json.optional pydantic.integer (Json.ofInt n) = some n := by
  cases n <;> rfl

@[simp] theorem optional_boolean (pydantic : Pydantic) (b : Option Bool) :
    Json.optional pydantic.boolean (Json.ofBool b) = some b := by
  cases b <;> rfl

@[simp] theorem list_text (texts : List String) :
    Json.list Json.text (Json.ofTexts texts) = some texts := by
  unfold Json.list Json.ofTexts
  induction texts with
  | nil => rfl
  | cons s texts ih =>
    simp only [List.map_cons, List.mapM_cons, Option.bind_eq_bind] at ih ⊢
    rw [ih]
    rfl

@[simp] theorem dict_mapping (entries : Dict String JsonObject) :
    Json.dict Json.mapping (Json.ofMappings entries) = some entries := by
  obtain ⟨entries⟩ := entries
  unfold Json.dict Json.ofMappings
  dsimp only
  have h : (entries.map fun entry => (entry.1, Json.obj entry.2)).mapM (fun entry =>
      (Json.mapping entry.2).map fun value => (entry.1, value)) = some entries := by
    induction entries with
    | nil => rfl
    | cons entry entries ih =>
      simp only [List.map_cons, List.mapM_cons, Option.bind_eq_bind] at ih ⊢
      rw [ih]
      rfl
  rw [h]
  rfl

@[simp] theorem field_nil {α : Type} (name : String) (f : Json → Option α) (default : α) :
    Json.field ⟨[]⟩ name f default = some default := rfl

/-- The fields of an object, entry by entry. -/
theorem field_cons {α : Type} (key : String) (entry : Json) (entries : List (String × Json))
    (name : String) (f : Json → Option α) (default : α) :
    Json.field ⟨(key, entry) :: entries⟩ name f default =
      if name = key then f entry else Json.field ⟨entries⟩ name f default := by
  unfold Json.field Dict.get
  rw [List.lookup_cons]
  by_cases h : name = key
  · simp [h]
  · rw [if_neg h, beq_eq_false_iff_ne.mpr h]

end roundTrip

end HexeVoice.Library
