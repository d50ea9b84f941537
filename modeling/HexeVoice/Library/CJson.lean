import HexeVoice.Library.CString
import Mathlib

/-!
# JSON values in C

The values that cJSON parses, and the lookups and type checks that programs do on them.
-/

namespace HexeVoice.Library

/-- A parsed value; of a number the integer that it saturates to. -/
inductive CJson where
  | null
  | bool (b : Bool)
  | number (valueint : ℤ)
  | string (valuestring : CString)
  | array (items : List CJson)
  | object (entries : List (CString × CJson))

namespace CJson

/-- `tolower` of an ASCII letter. -/
def lowerByte (b : UInt8) : UInt8 := if 65 ≤ b ∧ b ≤ 90 then b + 32 else b

/-- `cJSON_GetObjectItem`: the first entry whose key is the name, in upper or lower case. -/
def getObjectItem (value : CJson) (name : String) : Option CJson :=
  match value with
  | .object entries =>
    (entries.find? fun e =>
      e.1.bytes.map lowerByte = (name.toList.map fun c => c.toNat.toUInt8).map lowerByte).map (·.2)
  | _ => none

/-- `cJSON_IsObject`. -/
def isObject : CJson → Bool
  | .object _ => true
  | _ => false

/-- `cJSON_IsTrue(item) || (cJSON_IsNumber(item) && item->valueint != 0)`. -/
def isTruthy : Option CJson → Bool
  | some (.bool b) => b
  | some (.number n) => n ≠ 0
  | _ => false

/-- The string of an item that is one. -/
def string? : Option CJson → Option CString
  | some (.string s) => some s
  | _ => none

/-- The integer of an item that is a number. -/
def number? : Option CJson → Option ℤ
  | some (.number n) => some n
  | _ => none

/-- The value of an item that is true or false. -/
def bool? : Option CJson → Option Bool
  | some (.bool b) => some b
  | _ => none

end CJson

end HexeVoice.Library
