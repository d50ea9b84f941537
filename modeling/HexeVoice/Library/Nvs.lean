import HexeVoice.Library.CString
import Mathlib

/-!
# Non-volatile storage

A namespace of a typed key-value store in flash, as ESP-IDF has it. Every operation takes effect at
once. A namespace that does not exist reads as an empty one, and writing to it creates it.
-/

namespace HexeVoice.Library

/-- A stored value. -/
inductive NvsValue where
  | i32 (n : ℤ)
  | u8 (n : ℕ)
  | str (s : CString)
  deriving DecidableEq

/-- How an operation fails. -/
inductive NvsError where
  | notFound | keyTooLong | valueTooLong | invalidLength
  deriving DecidableEq

/-- The values of a namespace under their keys. -/
abbrev Nvs := String → Option NvsValue

namespace Nvs

/-- The most characters a key has. -/
def maxKeyLength : ℕ := 15

/-- The most bytes a string has, the zero that ends it included. -/
def maxStringBytes : ℕ := 4000

/-- A namespace without values. -/
def empty : Nvs := fun _ => none

/-- Store a value. -/
def set (store : Nvs) (key : String) (value : NvsValue) : Except NvsError Nvs :=
  if maxKeyLength < key.length then .error .keyTooLong
  else .ok (Function.update store key (some value))

/-- `nvs_set_i32`. -/
def setI32 (store : Nvs) (key : String) (n : ℤ) : Except NvsError Nvs := store.set key (.i32 n)

/-- `nvs_set_u8`. -/
def setU8 (store : Nvs) (key : String) (n : ℕ) : Except NvsError Nvs := store.set key (.u8 n)

/-- `nvs_set_str`. -/
def setStr (store : Nvs) (key : String) (s : CString) : Except NvsError Nvs :=
  if maxStringBytes < s.length + 1 then .error .valueTooLong
  else store.set key (.str s)

/-- `nvs_erase_key`. -/
def erase (store : Nvs) (key : String) : Except NvsError Nvs :=
  if maxKeyLength < key.length then .error .keyTooLong
  else if (store key).isNone then .error .notFound
  else .ok (Function.update store key none)

/-- `nvs_get_i32`. -/
def getI32 (store : Nvs) (key : String) : Except NvsError ℤ :=
  match store key with
  | some (.i32 n) => .ok n
  | _ => .error .notFound

/-- `nvs_get_u8`. -/
def getU8 (store : Nvs) (key : String) : Except NvsError ℕ :=
  match store key with
  | some (.u8 n) => .ok n
  | _ => .error .notFound

/-- `nvs_get_str`, to a buffer of `size` bytes. -/
def getStr (store : Nvs) (key : String) (size : ℕ) : Except NvsError (CBuffer size) :=
  match store key with
  | some (.str s) =>
    match CBuffer.ofText size s with
    | some buffer => .ok buffer
    | none => .error .invalidLength
  | _ => .error .notFound

/-- Writes one after the other, up to the first that fails, and whether none does. -/
def writes : Nvs → List (Nvs → Option Nvs) → Nvs × Bool
  | store, [] => (store, true)
  | store, write :: rest =>
    match write store with
    | some store => writes store rest
    | none => (store, false)

variable {store : Nvs} {key : String}

theorem writes_nil_eq {stored : Nvs} : store.writes [] = (stored, true) ↔ stored = store := by
  simp [writes, eq_comm]

/-- All writes succeed if each does. -/
theorem writes_cons_eq {write : Nvs → Option Nvs} {rest : List (Nvs → Option Nvs)} {stored : Nvs} :
    store.writes (write :: rest) = (stored, true) ↔
      ∃ written, write store = some written ∧ written.writes rest = (stored, true) := by
  simp only [writes]
  cases write store <;> simp

theorem set_of_length_le (h : key.length ≤ maxKeyLength) (value : NvsValue) :
    store.set key value = .ok (Function.update store key (some value)) := by
  rw [set, if_neg (by omega)]

theorem setI32_eq (h : key.length ≤ maxKeyLength) (n : ℤ) :
    (store.setI32 key n).toOption = some (Function.update store key (some (.i32 n))) := by
  rw [setI32, set_of_length_le h]
  rfl

theorem setU8_eq (h : key.length ≤ maxKeyLength) (n : ℕ) :
    (store.setU8 key n).toOption = some (Function.update store key (some (.u8 n))) := by
  rw [setU8, set_of_length_le h]
  rfl

theorem setStr_of_length_le (h : key.length ≤ maxKeyLength) {s : CString}
    (hs : s.length < maxStringBytes) :
    store.setStr key s = .ok (Function.update store key (some (.str s))) := by
  rw [setStr, if_neg (by omega), set_of_length_le h]

/-- A string that is stored. -/
theorem setStr_eq_some (h : key.length ≤ maxKeyLength) {s : CString} {stored : Nvs} :
    (store.setStr key s).toOption = some stored ↔
      s.length < maxStringBytes ∧ stored = Function.update store key (some (.str s)) := by
  by_cases hs : s.length < maxStringBytes
  · rw [setStr_of_length_le h hs]
    simp [Except.toOption, hs, eq_comm]
  · rw [setStr, if_pos (by omega)]
    simp [Except.toOption, hs]

/-- What an erased key leaves, whether it was there or not. -/
theorem erase_of_length_le (store : Nvs) (h : key.length ≤ maxKeyLength) :
    store.erase key = .ok (Function.update store key none) ∨
      store.erase key = .error .notFound ∧ store = Function.update store key none := by
  rw [erase, if_neg (by omega)]
  cases hget : store key with
  | none =>
    refine .inr ⟨by simp, ?_⟩
    rw [← hget, Function.update_eq_self]
  | some value => exact .inl (by simp)

end Nvs

end HexeVoice.Library
