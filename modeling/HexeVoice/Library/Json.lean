import HexeVoice.Library.Dict
import HexeVoice.Library.Text
import Mathlib

/-!
# JSON values

The values of a decoded JSON document, as Python holds them: whole numbers and floats apart, which
`json` lets be infinite, and objects as insertion-ordered maps.
-/

namespace HexeVoice.Library

/-- A `float`. -/
inductive PyFloat where
  | finite (q : ℚ)
  | infinite (negative : Bool)
  | nan
  deriving DecidableEq

/-- A JSON value. -/
inductive Json where
  | null
  | bool (b : Bool)
  | int (n : ℤ)
  | float (x : PyFloat)
  | str (s : String)
  | arr (items : List Json)
  | obj (entries : Dict String Json)

/-- A JSON object. -/
abbrev JsonObject := Dict String Json

namespace Json

/-- `bool(value)`. -/
def truthy : Json → Bool
  | null => false
  | bool b => b
  | int n => n ≠ 0
  | float x => x ≠ .finite 0
  | str s => s ≠ ""
  | arr items => !items.isEmpty
  | obj entries => !entries.entries.isEmpty

/-- `value if isinstance(value, dict) else {}`. -/
def object : Option Json → JsonObject
  | some (obj entries) => entries
  | _ => Dict.empty

/-- `isinstance(value, str)`. -/
def str? : Json → Option String
  | str s => some s
  | _ => none

/-- `a or b`. -/
def orElse (a b : Option Json) : Option Json := if a.any truthy then a else b

end Json

end HexeVoice.Library
