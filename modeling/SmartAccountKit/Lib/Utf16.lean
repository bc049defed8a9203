import Mathlib.Algebra.GroupWithZero.Nat
import Mathlib.Data.List.Basic

/-!
# UTF-16

The length of a text in code units, which is what `text.length` counts.
-/

namespace SmartAccountKit.Lib

/-- The number of code units of a character. -/
def utf16Units (c : Char) : ℕ := if c.toNat < 0x10000 then 1 else 2

/-- `text.length`. -/
def utf16Length (text : String) : ℕ := (text.toList.map utf16Units).sum

/-- A text whose characters are one code unit each is as long as it has characters. -/
theorem utf16Length_eq_length {text : String} (h : ∀ c ∈ text.toList, c.toNat < 0x10000) :
    utf16Length text = text.toList.length := by
  have hones : text.toList.map utf16Units = text.toList.map fun _ => 1 := by
    apply List.map_congr_left
    intro c hc
    exact if_pos (h c hc)
  rw [utf16Length, hones, List.map_const', List.sum_replicate_nat, Nat.mul_one]

end SmartAccountKit.Lib
