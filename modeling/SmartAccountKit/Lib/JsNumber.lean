import Mathlib.Algebra.Order.Floor.Defs
import Mathlib.Data.Rat.Floor
import Mathlib.Tactic.Linarith

/-!
# JavaScript numbers

The values a JavaScript `number` can take, with one zero. Finite values are
rational numbers, which is every value a double can hold.
-/

namespace SmartAccountKit.Lib

/-- A JavaScript number. -/
inductive JsNumber where
  | finite (value : ℚ)
  | infinite (negative : Bool)
  | nan
deriving DecidableEq

namespace JsNumber

/-- The number of a 32-bit unsigned integer. -/
def ofU32 (n : UInt32) : JsNumber := finite (n.toNat : ℚ)

/-- The number of a count. -/
def ofNat (n : ℕ) : JsNumber := finite (n : ℚ)

/-- The truth value of a number in a condition. -/
def truthy : JsNumber → Bool
  | finite value => value ≠ 0
  | infinite _ => true
  | nan => false

/-- `Number.isSafeInteger`. -/
def isSafeInteger : JsNumber → Bool
  | finite value => value.den = 1 ∧ value.num.natAbs ≤ 2 ^ 53 - 1
  | _ => false

/-- The operator `<`. -/
def lt : JsNumber → JsNumber → Bool
  | finite a, finite b => a < b
  | finite _, infinite negative => !negative
  | infinite negative, finite _ => negative
  | infinite negative, infinite negative' => negative && !negative'
  | _, _ => false

/-- The operator `===`: `NaN` is no number, not even itself. -/
def strictEquals (a b : JsNumber) : Bool := a ≠ nan ∧ a = b

/-- The 32-bit unsigned integer a number denotes, if it is one. -/
def toU32 : JsNumber → Option UInt32
  | finite value =>
    if value.den = 1 ∧ 0 ≤ value.num ∧ value.num < 2 ^ 32 then some (UInt32.ofNat value.num.toNat)
    else none
  | _ => none

@[simp] theorem toU32_ofU32 (n : UInt32) : (ofU32 n).toU32 = some n := by
  have h := n.toNat_lt
  simp only [ofU32, toU32]
  rw [if_pos ⟨rfl, Int.natCast_nonneg _, by simp only [Rat.num_natCast]; omega⟩]
  simp

theorem ofU32_inj {m n : UInt32} (h : ofU32 m = ofU32 n) : m = n := by
  have := congrArg toU32 h
  simpa using this

/-- The numbers that denote a 32-bit unsigned integer are those of `ofU32`. -/
theorem toU32_eq_some {x : JsNumber} {n : UInt32} : x.toU32 = some n ↔ x = ofU32 n := by
  constructor
  · intro h
    cases x with
    | finite value =>
      simp only [toU32] at h
      split_ifs at h with hv
      obtain ⟨hden, hnum, hlt⟩ := hv
      rw [Option.some.injEq] at h
      have hnat : (UInt32.ofNat value.num.toNat).toNat = value.num.toNat :=
        UInt32.toNat_ofNat_of_lt' (by show _ < 2 ^ 32; omega)
      rw [ofU32, ← h, hnat, finite.injEq]
      apply Rat.ext
      · simp only [Rat.num_natCast]
        omega
      · simpa using hden
    | infinite _ => simp [toU32] at h
    | nan => simp [toU32] at h
  · intro h
    rw [h, toU32_ofU32]

end JsNumber

end SmartAccountKit.Lib
