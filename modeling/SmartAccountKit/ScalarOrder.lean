import SmartAccountKit.ScValOrder

/-!
# The order of scalars

`compareScVal` compares scalars of one type by the bytes of their encodings. The
bytes of unsigned numbers are in the order of the numbers. A negative number is
encoded as its two's complement, so it stands after all that are not negative.
-/

namespace SmartAccountKit
open Lib

/-! ## Scalars -/

/-- The number that the host compares a scalar by. -/
def ScVal.scalar? : ScVal → Option ℤ
  | bool b => some b.toNat
  | void => some 0
  | u32 n => some n.toNat
  | i32 n => some n.toInt
  | u64 n => some n.toNat
  | i64 n => some n.toInt
  | timepoint n => some n.toNat
  | duration n => some n.toNat
  | u128 n => some n.toNat
  | i128 n => some n.toInt
  | u256 n => some n.toNat
  | i256 n => some n.toInt
  | _ => none

/-- The number of bytes that the scalars of a type take. -/
def scalarWidth (discriminant : ℕ) : ℕ :=
  match discriminant with
  | 1 => 0
  | 0 | 3 | 4 => 4
  | 9 | 10 => 16
  | 11 | 12 => 32
  | _ => 8

/-- The types of signed numbers. -/
def isSignedType (discriminant : ℕ) : Bool := discriminant ∈ [4, 6, 10, 12]

/-- The number that the bytes of a scalar denote: of a signed type, those of the upper half are the
negative ones. -/
def wordValue (signed : Bool) (k m : ℕ) : ℤ :=
  if signed ∧ 256 ^ k ≤ 2 * m then (m : ℤ) - (256 ^ k : ℕ) else m

theorem wordValue_signed {w : ℕ} (k : ℕ) (hw : 256 ^ k = 2 ^ w) (n : BitVec w) :
    wordValue true k n.toNat = n.toInt := by
  rw [BitVec.toInt_eq_toNat_cond, wordValue, hw]
  by_cases hlow : 2 * n.toNat < 2 ^ w
  · rw [if_pos hlow, if_neg (by omega)]
  · rw [if_neg hlow, if_pos ⟨rfl, by omega⟩]

/-- A scalar is encoded as the bytes of a word, which denote its number. -/
structure EncodesScalar (v : ScVal) (x : ℤ) (m : ℕ) : Prop where
  body_eq : v.body = beBytes (scalarWidth v.discriminant) m
  fits : m < 256 ^ scalarWidth v.discriminant
  value_eq : x = wordValue (isSignedType v.discriminant) (scalarWidth v.discriminant) m

theorem exists_encodesScalar {v : ScVal} {x : ℤ} (h : v.scalar? = some x) :
    ∃ m, EncodesScalar v x m := by
  cases v with
  | bool b =>
    refine ⟨b.toNat, ?_, ?_, (Option.some.inj h).symm⟩
    · cases b <;> rfl
    · cases b <;> decide
  | void => exact ⟨0, rfl, by decide, (Option.some.inj h).symm⟩
  | u32 n => exact ⟨n.toNat, rfl, n.toNat_lt, (Option.some.inj h).symm⟩
  | i32 n =>
    have hvalue : n.toInt = x := Option.some.inj h
    exact ⟨n.toBitVec.toNat, rfl, n.toBitVec.isLt,
      hvalue.symm.trans (wordValue_signed 4 (by norm_num) n.toBitVec).symm⟩
  | u64 n => exact ⟨n.toNat, rfl, n.toNat_lt, (Option.some.inj h).symm⟩
  | i64 n =>
    have hvalue : n.toInt = x := Option.some.inj h
    exact ⟨n.toBitVec.toNat, rfl, n.toBitVec.isLt,
      hvalue.symm.trans (wordValue_signed 8 (by norm_num) n.toBitVec).symm⟩
  | timepoint n => exact ⟨n.toNat, rfl, n.toNat_lt, (Option.some.inj h).symm⟩
  | duration n => exact ⟨n.toNat, rfl, n.toNat_lt, (Option.some.inj h).symm⟩
  | u128 n => exact ⟨n.toNat, rfl, n.isLt, (Option.some.inj h).symm⟩
  | i128 n =>
    have hvalue : n.toInt = x := Option.some.inj h
    exact ⟨n.toNat, rfl, n.isLt, hvalue.symm.trans (wordValue_signed 16 (by norm_num) n).symm⟩
  | u256 n => exact ⟨n.toNat, rfl, n.isLt, (Option.some.inj h).symm⟩
  | i256 n =>
    have hvalue : n.toInt = x := Option.some.inj h
    exact ⟨n.toNat, rfl, n.isLt, hvalue.symm.trans (wordValue_signed 32 (by norm_num) n).symm⟩
  | _ => exact absurd h (by simp [ScVal.scalar?])

/-! ## Comparison -/

/-- Scalars of one type are in the order of their words. -/
theorem toOrdering_compareScVal_scalar {a b : ScVal} {x y : ℤ} {m n : ℕ}
    (hsame : a.discriminant = b.discriminant) (hscalar : a.scalar? = some x)
    (ha : EncodesScalar a x m) (hb : EncodesScalar b y n) :
    toOrdering (compareScVal a b) = natOrder m n := by
  have hbytes : compareScVal a b = bufferCompare a.toXDR b.toXDR := by
    rw [compareScVal_eq, rankCompare, if_neg (not_not.mpr hsame)]
    cases a with
    | error _ _ | bytes _ | string _ | symbol _ | vec _ | map _ | address _
    | contractInstance _ _ | ledgerKeyContractInstance | ledgerKeyNonce _ =>
      exact absurd hscalar (by simp [ScVal.scalar?])
    | _ => rfl
  have hfits : n < 256 ^ scalarWidth a.discriminant := by
    rw [hsame]
    exact hb.fits
  rw [hbytes, toOrdering_bufferCompare, ScVal.toXDR, ScVal.toXDR, ha.body_eq, hb.body_eq, ← hsame,
    bytesOrder_append_of_length rfl, bytesOrder_beBytes ha.fits hfits]
  -- the discriminants are encoded alike
  have htype : bytesOrder (xdrU32 a.discriminant) (xdrU32 a.discriminant) = .eq := by
    rw [← toOrdering_bufferCompare, bufferCompare_eq_zero.mpr rfl]
    rfl
  rw [htype]
  rfl

/-- `compareScVal` has the sign of comparing two scalars of one type if and only if both are
negative or neither is. -/
theorem compareScVal_scalar_iff {a b : ScVal} {x y : ℤ} (hsame : a.discriminant = b.discriminant)
    (ha : a.scalar? = some x) (hb : b.scalar? = some y) :
    toOrdering (compareScVal a b) = toOrdering (x - y) ↔ (x < 0 ↔ y < 0) := by
  obtain ⟨m, ham⟩ := exists_encodesScalar ha
  obtain ⟨n, hbn⟩ := exists_encodesScalar hb
  have hx := ham.value_eq
  have hy := hbn.value_eq
  have hm := ham.fits
  have hn := hbn.fits
  rw [toOrdering_compareScVal_scalar hsame ha ham hbn, ← toOrdering_sub]
  rw [← hsame] at hy hn
  unfold wordValue at hx hy
  generalize 256 ^ scalarWidth a.discriminant = top at *
  generalize isSignedType a.discriminant = signed at hx hy
  -- without a negative number the words are the numbers, and with two they are moved alike
  have hcases : (m : ℤ) - n = x - y ∧ (x < 0 ↔ y < 0) ∨ x < 0 ∧ 0 ≤ y ∧ n < m ∨
      0 ≤ x ∧ y < 0 ∧ m < n := by
    cases signed with
    | false =>
      rw [if_neg (by simp)] at hx hy
      omega
    | true =>
      simp only [true_and] at hx hy
      split_ifs at hx hy <;> omega
  constructor
  · intro horder
    rcases hcases with hsame | hmixed | hmixed
    · exact hsame.2
    · unfold toOrdering at horder
      split_ifs at horder <;> omega
    · unfold toOrdering at horder
      split_ifs at horder <;> omega
  · intro hsign
    have hequal : (m : ℤ) - n = x - y := by omega
    rw [hequal]

/-- Two negative numbers of 128 bits. -/
theorem compareScVal_scalar_iff_sample :
    toOrdering (compareScVal (.i128 (-2)) (.i128 (-1))) = toOrdering (-2 - -1) :=
  (@compareScVal_scalar_iff (.i128 (-2)) (.i128 (-1)) (-2) (-1) rfl rfl rfl).mpr (by decide)

/-- The number `-1` of 32 bits is compared as greater than `1`. -/
theorem compareScVal_negative :
    ¬∀ (a b : ScVal) (x y : ℤ), a.discriminant = b.discriminant → a.scalar? = some x →
      b.scalar? = some y → toOrdering (compareScVal a b) = toOrdering (x - y) := by
  intro h
  have hsign := h (.i32 (-1)) (.i32 1) (-1) 1 rfl rfl rfl
  exact absurd hsign (by decide)

end SmartAccountKit
