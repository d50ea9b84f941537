import HexeVoice.Library.Json
import HexeVoice.Library.Regex

/-!
# Python's library

What the models take of Python's built-in functions on values that are not known before.

## The model

The tables of Unicode, the texts of numbers and containers, and the reading and writing of numbers
and instants are parameters (`Python`): nothing is asked of them here. How a value that is not a text
becomes a number is fixed.
-/

namespace HexeVoice.Library

/-- The exceptions that the models tell apart. -/
inductive PyException where
  | typeError
  | valueError
  | overflowError
  deriving DecidableEq

/-- A `datetime`: what its own clock shows, and what that clock is ahead of UTC if it has a
timezone, both in microseconds; the first instant of the year 1 is 0. -/
structure WallTime where
  wall : ℤ
  offset : Option ℤ
  deriving DecidableEq

/-- The instant in UTC; a timezone that is missing is UTC. -/
def WallTime.utc (d : WallTime) : ℤ := d.wall - d.offset.getD 0

/-- The built-in functions. -/
structure Python where
  chars : CharTable
  /-- `str(value)`, of a value that is not a text. -/
  repr : Json → String
  /-- `s.lower()`. -/
  lower : String → String
  /-- `int(s)`, unless it raises `ValueError`. -/
  int : String → Option ℤ
  /-- `datetime.fromisoformat(s)`, unless it raises `ValueError`. -/
  fromisoformat : String → Option WallTime
  /-- `d.isoformat()`. -/
  isoformat : WallTime → String

/-- The built-in functions, as far as ASCII texts need them. -/
def Python.ascii : Python where
  chars := .ascii
  repr := fun _ => ""
  lower := fun s => String.ofList (s.toList.map Char.toLower)
  int := fun _ => none
  fromisoformat := fun _ => none
  isoformat := fun _ => ""

namespace Python

variable (py : Python)

/-- `str(value)`. -/
def str : Json → String
  | .str s => s
  | value => py.repr value

/-- `str(a or b or … or "")`. -/
def firstText (values : List (Option Json)) : String :=
  py.str (((values.filterMap id).find? Json.truthy).getD (.str ""))

/-- `int(value)`. -/
def toInt : Json → Except PyException ℤ
  | .bool b => .ok (if b then 1 else 0)
  | .int n => .ok n
  | .float (.finite q) => .ok (q.num.tdiv q.den)
  | .float (.infinite _) => .error .overflowError
  | .float .nan => .error .valueError
  | .str s => ((py.int s).map .ok).getD (.error .valueError)
  | .null | .arr _ | .obj _ => .error .typeError

end Python

/-- `a or b`, of texts. -/
def nonempty (s : String) : Option String := if s = "" then none else some s

end HexeVoice.Library
