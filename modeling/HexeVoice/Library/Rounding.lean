import Mathlib

/-!
# Rounding to decimals

`round(x, n)` over any ordered field with a floor, a half to the even digit.
-/

namespace HexeVoice.Library

section Rounding

variable {K : Type*} [Field K] [LinearOrder K] [FloorRing K]

/-- `round(x)`. -/
def roundEven (x : K) : ℤ :=
  let n := ⌊x⌋
  let r := x - n
  if r < 1 / 2 then n else if 1 / 2 < r then n + 1 else if n % 2 = 0 then n else n + 1

/-- `round(x, digits)`. -/
def roundDigits (digits : ℕ) (x : K) : K := roundEven (x * 10 ^ digits) / 10 ^ digits

/-- The number has no more decimals. -/
def HasDigits (digits : ℕ) (x : K) : Prop := ∃ n : ℤ, x = n / 10 ^ digits

theorem hasDigits_roundDigits (digits : ℕ) (x : K) : HasDigits digits (roundDigits digits x) :=
  ⟨_, rfl⟩

theorem HasDigits.sub {digits : ℕ} {x y : K} (hx : HasDigits digits x) (hy : HasDigits digits y) :
    HasDigits digits (x - y) := by
  obtain ⟨n, rfl⟩ := hx
  obtain ⟨m, rfl⟩ := hy
  exact ⟨n - m, by push_cast; ring⟩

end Rounding

theorem hasDigits_zero {K : Type*} [Field K] (digits : ℕ) : HasDigits digits (0 : K) := ⟨0, by simp⟩

variable {K : Type*} [Field K] [LinearOrder K] [IsStrictOrderedRing K] [FloorRing K]

/-- A whole number is rounded to itself. -/
@[simp] theorem roundEven_of_int (n : ℤ) : roundEven (n : K) = n := by
  have hrest : (n : K) - ⌊(n : K)⌋ = 0 := by rw [Int.floor_intCast, sub_self]
  have hhalf : (0 : K) < 1 / 2 := by norm_num
  rw [roundEven, hrest, if_pos hhalf, Int.floor_intCast]

/-- What has no more decimals is not changed. -/
theorem HasDigits.round {digits : ℕ} {x : K} (h : HasDigits digits x) : roundDigits digits x = x := by
  obtain ⟨n, rfl⟩ := h
  have hpow : (10 : K) ^ digits ≠ 0 := pow_ne_zero _ (by norm_num)
  rw [roundDigits, div_mul_cancel₀ _ hpow, roundEven_of_int]

end HexeVoice.Library
