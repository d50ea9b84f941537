import HexeVoice.Library.Json

/-!
# Equality of JSON values

Python's `==`: numbers and truth values by their value, lists in order, and objects in any order.
-/

namespace HexeVoice.Library

namespace Json

/-- The number that a value counts as. -/
def number : Json → Option PyFloat
  | bool b => some (.finite (if b then 1 else 0))
  | int n => some (.finite n)
  | float x => some x
  | _ => none

/-- `x == y`, where nothing equals `nan`. -/
def numberEq (a b : Option PyFloat) : Bool :=
  match a, b with
  | some x, some y => x = y && x ≠ .nan
  | _, _ => false

mutual

/-- `a == b`. -/
def eq : Json → Json → Bool
  | null, other =>
    match other with
    | null => true
    | _ => false
  | str s, other => other.str? = some s
  | arr items, other =>
    match other with
    | arr others => eqItems items others
    | _ => false
  | obj entries, other =>
    match other with
    | obj others => eqDict entries others
    | _ => false
  | bool b, other => numberEq (number (bool b)) other.number
  | int n, other => numberEq (number (int n)) other.number
  | float x, other => numberEq (number (float x)) other.number

private def eqItems : List Json → List Json → Bool
  | [], others => others.isEmpty
  | _ :: _, [] => false
  | a :: items, b :: others => eq a b && eqItems items others

private def eqDict : Dict String Json → Dict String Json → Bool
  | ⟨entries⟩, others => entries.length = others.entries.length && eqEntries entries others

private def eqEntries : List (String × Json) → Dict String Json → Bool
  | [], _ => true
  | entry :: entries, others => eqEntry entry others && eqEntries entries others

private def eqEntry : String × Json → Dict String Json → Bool
  | (key, value), others =>
    match others.get key with
    | some other => eq value other
    | none => false

end

/-- Only the same text equals a text. -/
theorem eq_str_iff {value : Json} {s : String} : eq value (.str s) = true ↔ value = .str s := by
  cases value with
  | str t => simp [eq, str?, eq_comm]
  | _ => simp [eq, numberEq, number]

theorem str_eq_iff {value : Json} {s : String} : eq (.str s) value = true ↔ value = .str s := by
  cases value with
  | str t => simp [eq, str?]
  | _ => simp [eq, str?]

end Json

end HexeVoice.Library
