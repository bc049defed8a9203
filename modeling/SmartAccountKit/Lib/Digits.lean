import Mathlib.Data.List.Induction
import Mathlib.Tactic.Ring
import Mathlib.Tactic.Linarith

/-!
# Fixed-width digit strings

Big-endian digit strings of a fixed length, in any base, and the regrouping of
digits of one power of two into digits of a smaller one that base 16, base 32
and base 64 text share.
-/

namespace SmartAccountKit.Lib

/-- The `k` least significant base-`b` digits of `n`, most significant first. -/
def beDigits (b : ℕ) : ℕ → ℕ → List ℕ
  | 0, _ => []
  | k + 1, n => beDigits b k (n / b) ++ [n % b]

/-- The number that a big-endian base-`b` digit string denotes. -/
def ofBeDigits (b : ℕ) (ds : List ℕ) : ℕ :=
  ds.foldl (fun n d => n * b + d) 0

@[simp] theorem length_beDigits (b k n : ℕ) : (beDigits b k n).length = k := by
  induction k generalizing n with
  | zero => rfl
  | succ k ih => simp [beDigits, ih]

@[simp] theorem ofBeDigits_nil (b : ℕ) : ofBeDigits b [] = 0 := rfl

@[simp] theorem ofBeDigits_append_singleton (b : ℕ) (ds : List ℕ) (d : ℕ) :
    ofBeDigits b (ds ++ [d]) = ofBeDigits b ds * b + d := by
  simp [ofBeDigits]

/-- Every digit produced by `beDigits` is below the base. -/
theorem beDigits_lt {b k n : ℕ} (hb : 0 < b) : ∀ d ∈ beDigits b k n, d < b := by
  induction k generalizing n with
  | zero => simp [beDigits]
  | succ k ih =>
    intro d hd
    rcases List.mem_append.mp hd with h | h
    · exact ih d h
    · rw [List.mem_singleton.mp h]
      exact Nat.mod_lt n hb

/-- Reading the digits of `n` back gives `n`, when they are enough to hold it. -/
theorem ofBeDigits_beDigits {b k n : ℕ} (hn : n < b ^ k) :
    ofBeDigits b (beDigits b k n) = n := by
  induction k generalizing n with
  | zero =>
    have : n = 0 := by simpa using hn
    simp [beDigits, this]
  | succ k ih =>
    have hdiv : n / b < b ^ k := by
      rw [Nat.pow_succ] at hn
      exact Nat.div_lt_of_lt_mul (by rwa [Nat.mul_comm])
    rw [beDigits, ofBeDigits_append_singleton, ih hdiv, Nat.mul_comm]
    exact Nat.div_add_mod n b

/-- A digit string of length `k` denotes a number below `b ^ k`. -/
theorem ofBeDigits_lt {b : ℕ} {ds : List ℕ} (h : ∀ d ∈ ds, d < b) :
    ofBeDigits b ds < b ^ ds.length := by
  induction ds using List.reverseRecOn with
  | nil => simp
  | append_singleton ds d ih =>
    have hd : d < b := h d (by simp)
    have hds : ofBeDigits b ds < b ^ ds.length := ih fun x hx => h x (by simp [hx])
    have hstep : (ofBeDigits b ds + 1) * b ≤ b ^ ds.length * b :=
      Nat.mul_le_mul_right b hds
    rw [ofBeDigits_append_singleton, List.length_append, List.length_singleton, Nat.pow_succ]
    rw [Nat.add_mul] at hstep
    omega

/-- Writing the number of a digit string back with as many digits gives the string. -/
theorem beDigits_ofBeDigits {b : ℕ} {ds : List ℕ} (h : ∀ d ∈ ds, d < b) :
    beDigits b ds.length (ofBeDigits b ds) = ds := by
  induction ds using List.reverseRecOn with
  | nil => rfl
  | append_singleton ds d ih =>
    have hd : d < b := h d (by simp)
    have hds := ih fun x hx => h x (by simp [hx])
    have hdiv : (ofBeDigits b ds * b + d) / b = ofBeDigits b ds := by
      rw [Nat.mul_comm, Nat.mul_add_div (by omega), Nat.div_eq_of_lt hd, Nat.add_zero]
    have hmod : (ofBeDigits b ds * b + d) % b = d := by
      rw [Nat.mul_comm, Nat.mul_add_mod, Nat.mod_eq_of_lt hd]
    rw [ofBeDigits_append_singleton, List.length_append, List.length_singleton, beDigits,
      hdiv, hmod, hds]

/-! ## Regrouping -/

/-- Regroup `v`-bit digits into `w`-bit digits, padding the last one with zero bits. -/
def packGroups (v w : ℕ) (ds : List ℕ) : List ℕ :=
  let m := (v * ds.length + w - 1) / w
  beDigits (2 ^ w) m (ofBeDigits (2 ^ v) ds * 2 ^ (w * m - v * ds.length))

/-- Regroup `w`-bit digits into whole `v`-bit digits, dropping the bits left over. -/
def unpackGroups (v w : ℕ) (es : List ℕ) : List ℕ :=
  let n := w * es.length / v
  beDigits (2 ^ v) n (ofBeDigits (2 ^ w) es / 2 ^ (w * es.length - v * n))

/-- Every digit of a regrouped string fits in its `w` bits. -/
theorem packGroups_lt (v w : ℕ) (ds : List ℕ) : ∀ e ∈ packGroups v w ds, e < 2 ^ w :=
  beDigits_lt (Nat.two_pow_pos w)

/-- Regrouping into narrower digits and back loses nothing. -/
theorem unpackGroups_packGroups {v w : ℕ} (hw : 0 < w) (hwv : w ≤ v) {ds : List ℕ}
    (h : ∀ d ∈ ds, d < 2 ^ v) : unpackGroups v w (packGroups v w ds) = ds := by
  set m := (v * ds.length + w - 1) / w with hm
  have hlow : v * ds.length ≤ w * m := by
    have := Nat.lt_mul_div_succ (v * ds.length + w - 1) hw
    rw [← hm, Nat.mul_add] at this
    omega
  have hhigh : w * m < v * ds.length + v := by
    have := Nat.mul_div_le (v * ds.length + w - 1) w
    rw [← hm] at this
    omega
  have hcount : w * m / v = ds.length := by
    apply Nat.div_eq_of_lt_le
    · rwa [Nat.mul_comm]
    · rw [Nat.add_mul, Nat.one_mul, Nat.mul_comm ds.length v]
      exact hhigh
  have hbound : ofBeDigits (2 ^ v) ds * 2 ^ (w * m - v * ds.length) < (2 ^ w) ^ m := by
    calc ofBeDigits (2 ^ v) ds * 2 ^ (w * m - v * ds.length)
        < (2 ^ v) ^ ds.length * 2 ^ (w * m - v * ds.length) :=
          Nat.mul_lt_mul_of_pos_right (ofBeDigits_lt h) (Nat.two_pow_pos _)
      _ = 2 ^ (w * m) := by rw [← Nat.pow_mul, ← Nat.pow_add, Nat.add_sub_cancel' hlow]
      _ = (2 ^ w) ^ m := Nat.pow_mul 2 w m
  unfold unpackGroups packGroups
  simp only [← hm, length_beDigits, hcount, ofBeDigits_beDigits hbound]
  rw [Nat.mul_div_cancel _ (Nat.two_pow_pos _)]
  exact beDigits_ofBeDigits h

end SmartAccountKit.Lib
