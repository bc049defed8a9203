import SmartAccountKit.Lib.Numeral

/-!
# The text of a number

`String(value)` of a number: the shortest decimal whose nearest double is the
number. Reading the text gives the number back.
-/

namespace SmartAccountKit.Lib

/-! ## Decimals -/

/-- A positive decimal with its digits as one number. -/
structure Decimal where
  digits : ℕ
  exponent : ℤ
  pos : 0 < digits

theorem toDigits_head (n : ℕ) (h : 0 < n) : ∃ c cs, Nat.toDigits 10 n = c :: cs ∧ c ≠ '0' := by
  induction n using Nat.strongRecOn with
  | _ n ih =>
    by_cases hlt : n < 10
    · have hdigit : ∀ d < 10, 0 < d → Nat.digitChar d ≠ '0' := by decide
      exact ⟨_, _, Nat.toDigits_of_lt_base hlt, hdigit n hlt h⟩
    · have hquotient : 0 < n / 10 := by omega
      obtain ⟨c, cs, hcons, hc⟩ := ih (n / 10) (by omega) hquotient
      refine ⟨c, cs ++ [Nat.digitChar (n % 10)], ?_, hc⟩
      rw [Nat.toDigits_of_base_le (by omega) (by omega), hcons, List.cons_append]

namespace Decimal

def value (d : Decimal) : ℚ := d.digits * 10 ^ d.exponent

def digitText (d : Decimal) : List Char := Nat.toDigits 10 d.digits

/-- The place of the point, counted from the first digit. -/
def point (d : Decimal) : ℤ := d.exponent + d.digitText.length

theorem digitText_ne_nil (d : Decimal) : d.digitText ≠ [] := Nat.toDigits_ne_nil

theorem digitText_head (d : Decimal) : ∃ c cs, d.digitText = c :: cs ∧ c ≠ '0' :=
  toDigits_head d.digits d.pos

theorem isDigit_digitText (d : Decimal) : ∀ c ∈ d.digitText, c.isDigit = true :=
  isDigit_toDigits d.digits

theorem head_take {m : ℕ} (d : Decimal) (hm : 0 < m) :
    ∃ c cs, d.digitText.take m = c :: cs ∧ c ≠ '0' := by
  obtain ⟨c, cs, hcons, hc⟩ := d.digitText_head
  obtain ⟨m, rfl⟩ := Nat.exists_eq_succ_of_ne_zero (Nat.ne_of_gt hm)
  exact ⟨c, cs.take m, by rw [hcons, List.take_succ_cons], hc⟩

/-- A decimal as it is written: with zeros up to the point, with the point among its digits, with
zeros after the point, or with an exponent. -/
def toNumeral (negative : Bool) (d : Decimal) : Numeral :=
  if 0 ≤ d.exponent ∧ d.point ≤ 21 then
    { negative := negative
      whole := d.digitText ++ List.replicate d.exponent.toNat '0'
      whole_digits := by
        intro c hc
        rcases List.mem_append.mp hc with hdigit | hzero
        · exact d.isDigit_digitText c hdigit
        · exact isDigit_replicate_zero _ c hzero
      whole_head := by
        obtain ⟨c, cs, hcons, hc⟩ := d.digitText_head
        exact Or.inr ⟨c, _, by rw [hcons, List.cons_append], hc⟩
      fraction_digits := fun c hc => absurd hc List.not_mem_nil }
  else if hpoint : 0 < d.point ∧ d.point ≤ 21 then
    { negative := negative
      whole := d.digitText.take d.point.toNat
      fraction := d.digitText.drop d.point.toNat
      whole_digits := fun c hc => d.isDigit_digitText c (List.mem_of_mem_take hc)
      whole_head := Or.inr (d.head_take (by omega))
      fraction_digits := fun c hc => d.isDigit_digitText c (List.mem_of_mem_drop hc) }
  else if -6 < d.point ∧ d.point ≤ 0 then
    { negative := negative
      whole := ['0']
      fraction := List.replicate (-d.point).toNat '0' ++ d.digitText
      whole_digits := List.forall_mem_singleton.mpr rfl
      whole_head := Or.inl rfl
      fraction_digits := by
        intro c hc
        rcases List.mem_append.mp hc with hzero | hdigit
        · exact isDigit_replicate_zero _ c hzero
        · exact d.isDigit_digitText c hdigit }
  else
    { negative := negative
      whole := d.digitText.take 1
      fraction := d.digitText.drop 1
      exponent := some (d.point - 1)
      whole_digits := fun c hc => d.isDigit_digitText c (List.mem_of_mem_take hc)
      whole_head := Or.inr (d.head_take Nat.one_pos)
      fraction_digits := fun c hc => d.isDigit_digitText c (List.mem_of_mem_drop hc) }

theorem toNumeral_negative (negative : Bool) (d : Decimal) :
    (d.toNumeral negative).negative = negative := by
  unfold toNumeral
  split_ifs <;> rfl

theorem decimalValue_digitText (d : Decimal) : decimalValue d.digitText = d.digits :=
  decimalValue_toDigits d.digits

/-- However it is written, the numeral denotes the decimal. -/
theorem toNumeral_magnitude (negative : Bool) (d : Decimal) :
    (d.toNumeral negative).magnitude = d.value := by
  have hpoint : d.point = d.exponent + d.digitText.length := rfl
  have hpos : 0 < d.digitText.length := List.length_pos_iff.mpr d.digitText_ne_nil
  unfold toNumeral
  split_ifs with hzeros hpoint' hsmall
  · simp only [Numeral.magnitude, List.append_nil, decimalValue_append_zeros,
      decimalValue_digitText, Option.getD_none, List.length_nil, value]
    have hexponent : d.exponent = (d.exponent.toNat : ℤ) := by omega
    rw [hexponent, zpow_natCast, Int.toNat_natCast]
    push_cast
    ring
  · simp only [Numeral.magnitude, List.take_append_drop, decimalValue_digitText, Option.getD_none,
      List.length_drop, value]
    congr 2
    omega
  · have hjoin : ['0'] ++ (List.replicate (-d.point).toNat '0' ++ d.digitText) =
        List.replicate ((-d.point).toNat + 1) '0' ++ d.digitText := rfl
    simp only [Numeral.magnitude, hjoin, decimalValue_zeros_append, decimalValue_digitText,
      Option.getD_none, List.length_append, List.length_replicate, value]
    congr 2
    omega
  · simp only [Numeral.magnitude, List.take_append_drop, decimalValue_digitText, Option.getD_some,
      List.length_drop, value]
    congr 2
    omega

theorem toNumeral_value (negative : Bool) (d : Decimal) :
    (d.toNumeral negative).value = if negative then -d.value else d.value := by
  rw [Numeral.value, toNumeral_negative, toNumeral_magnitude]

end Decimal

/-! ## The shortest decimal -/

/-- The decimal of up to `k` digits that are given as a number. -/
def decimalOf (k s : ℕ) (e : ℤ) : Option Decimal :=
  if s = 10 ^ k then some ⟨10 ^ (k - 1), e + 1, Nat.pow_pos (by omega)⟩
  else if h : 0 < s then some ⟨s, e, h⟩ else none

/-- The decimals of `k` digits on both sides of a positive number, the nearer one first, and the
even one if both are as near. -/
def neighbours (x : ℚ) (k : ℕ) : List Decimal :=
  let e := Int.log 10 x + 1 - k
  let t := x / 10 ^ e
  let s := ⌊t⌋₊
  let order := if t - s < 1 / 2 ∨ t - s = 1 / 2 ∧ s % 2 = 0 then [s, s + 1] else [s + 1, s]
  order.filterMap fun s => decimalOf k s e

/-- Whether a number is the nearest double of a decimal, up to its sign. -/
def roundsTo (x : ℚ) (d : Decimal) : Bool :=
  nearestDouble (if x < 0 then -d.value else d.value) = .finite x

/-- The decimal with the fewest digits that a double is nearest to. A double has at most 1074 digits
after the point and 309 before it, so the search finds the double itself, if nothing else. -/
def shortestDecimal (x : ℚ) : Option Decimal :=
  (List.range 1400).findSome? fun k => (neighbours |x| (k + 1)).find? (roundsTo x)

def zeroNumeral : Numeral where
  whole := ['0']
  whole_digits := List.forall_mem_singleton.mpr rfl
  whole_head := Or.inl rfl
  fraction_digits := fun _ hc => absurd hc List.not_mem_nil

/-- The numeral of a double. -/
def numeralOf (x : ℚ) : Numeral :=
  if x = 0 then zeroNumeral
  else (shortestDecimal x).elim zeroNumeral fun d => d.toNumeral (x < 0)

/-- `String(value)`. -/
def numberText : JsNumber → String
  | .finite x => String.ofList (numeralOf x).text
  | .infinite negative => if negative then "-Infinity" else "Infinity"
  | .nan => "NaN"

/-! ## Reading -/

/-- The numbers that are doubles. -/
def IsDouble (x : ℚ) : Prop := nearestDouble x = .finite x

instance (x : ℚ) : Decidable (IsDouble x) := inferInstanceAs (Decidable (_ = _))

/-- A double is a whole number of the smallest units. -/
theorem IsDouble.exists_units {x : ℚ} (h : IsDouble x) :
    (∃ m : ℤ, x = m * 2 ^ (-1074 : ℤ)) ∧ |x| < 2 ^ 1024 := by
  rw [IsDouble, nearestDouble] at h
  split_ifs at h with hsmall
  have hvalue := JsNumber.finite.inj h
  rw [hvalue] at hsmall
  refine ⟨?_, hsmall⟩
  obtain ⟨k, hk⟩ : ∃ k : ℕ, max (Int.log 2 |x| - 52) (-1074) = -1074 + (k : ℤ) :=
    ⟨(max (Int.log 2 |x| - 52) (-1074) + 1074).toNat, by omega⟩
  rw [hk] at hvalue
  generalize (-1074 : ℤ) = unit at hvalue ⊢
  rw [zpow_add₀ (by norm_num), zpow_natCast] at hvalue
  refine ⟨roundHalfEven (x / (2 ^ unit * 2 ^ k)) * 2 ^ k, ?_⟩
  push_cast
  rw [mul_assoc, mul_comm (2 ^ k)]
  exact hvalue.symm

theorem exists_decimalOf (k : ℕ) {s : ℕ} (hs : 0 < s) (e : ℤ) : ∃ d, decimalOf k s e = some d := by
  unfold decimalOf
  split_ifs
  · exact ⟨_, rfl⟩
  · exact ⟨_, rfl⟩

theorem decimalOf_value {k s : ℕ} {e : ℤ} {d : Decimal} (hk : 0 < k)
    (h : decimalOf k s e = some d) : d.value = s * 10 ^ e := by
  unfold decimalOf at h
  split_ifs at h with hcarry
  · rw [← Option.some.inj h, Decimal.value, hcarry]
    push_cast
    obtain ⟨k, rfl⟩ := Nat.exists_eq_succ_of_ne_zero (Nat.ne_of_gt hk)
    rw [zpow_add₀ (by norm_num), Nat.succ_sub_one, pow_succ]
    ring
  · rw [← Option.some.inj h]
    rfl

theorem pow_two_le_pow_ten : (2 : ℚ) ^ 1024 ≤ 10 ^ 309 := by
  have hnat : 2 ^ 1024 ≤ 10 ^ 309 := by decide +kernel
  have hcast : ((2 ^ 1024 : ℕ) : ℚ) ≤ ((10 ^ 309 : ℕ) : ℚ) := Nat.cast_le.mpr hnat
  rwa [Nat.cast_pow, Nat.cast_pow] at hcast

/-- A fraction of a power of two has as many decimal places. -/
theorem mul_pow_ten_of_units {x : ℚ} {m : ℤ} {p : ℕ} (hx : x = m * 2 ^ (-(p : ℤ))) (j : ℕ) :
    |x| / 10 ^ (-((p + j : ℕ) : ℤ)) = ((m.natAbs * 5 ^ p * 10 ^ j : ℕ) : ℚ) := by
  have hten : (10 : ℚ) ^ p = 2 ^ p * 5 ^ p := by
    rw [← mul_pow]
    norm_num
  have htwo : (2 : ℚ) ^ p ≠ 0 := pow_ne_zero _ (by norm_num)
  have hunit : (0 : ℚ) < 2 ^ (-(p : ℤ)) := zpow_pos (by norm_num) _
  rw [hx, abs_mul, abs_of_pos hunit, zpow_neg, zpow_neg, div_inv_eq_mul,
    zpow_natCast, zpow_natCast, pow_add, hten]
  push_cast
  rw [Nat.cast_natAbs, Int.cast_abs]
  field_simp

/-- With enough digits a double is among its neighbours. -/
theorem IsDouble.mem_neighbours {x : ℚ} (h : IsDouble x) (hx : x ≠ 0) :
    ∃ d ∈ neighbours |x| 1400, d.value = |x| := by
  obtain ⟨⟨m, hm⟩, hsmall⟩ := h.exists_units
  have hpos : 0 < |x| := abs_pos.mpr hx
  have hlog : Int.log 10 |x| < 309 := by
    rw [← Int.lt_zpow_iff_log_lt (by norm_num) hpos]
    exact lt_of_lt_of_le hsmall pow_two_le_pow_ten
  obtain ⟨j, hj⟩ : ∃ j : ℕ, Int.log 10 |x| + 1 - (1400 : ℕ) = -((1074 + j : ℕ) : ℤ) :=
    ⟨(1400 - (Int.log 10 |x| + 1) - 1074).toNat, by omega⟩
  -- scaled, the double is a whole number, which is its own floor
  have hscaled := mul_pow_ten_of_units (p := 1074) hm j
  generalize m.natAbs * 5 ^ 1074 * 10 ^ j = s at hscaled
  have hunscaled : |x| = s * 10 ^ (-((1074 + j : ℕ) : ℤ)) := by
    rw [← hscaled, div_mul_cancel₀ _ (zpow_ne_zero _ (by norm_num))]
  have hs : 0 < s := by
    apply Nat.pos_of_ne_zero
    rintro rfl
    rw [Nat.cast_zero, zero_mul] at hunscaled
    exact absurd hunscaled (ne_of_gt hpos)
  obtain ⟨d, hd⟩ := exists_decimalOf 1400 hs (-((1074 + j : ℕ) : ℤ))
  refine ⟨d, ?_, ?_⟩
  · have hhalf : (s : ℚ) - (s : ℚ) < 1 / 2 := by
      rw [sub_self]
      norm_num
    simp only [neighbours, hj, hscaled, Nat.floor_natCast, if_pos (Or.inl hhalf)]
    exact List.mem_filterMap.mpr ⟨s, List.mem_cons_self, hd⟩
  · rw [decimalOf_value (by omega) hd, ← hunscaled]

/-- The search for the shortest decimal of a double finds one. -/
theorem IsDouble.exists_shortestDecimal {x : ℚ} (h : IsDouble x) (hx : x ≠ 0) :
    ∃ d, shortestDecimal x = some d ∧ roundsTo x d = true := by
  obtain ⟨exact, hmem, hvalue⟩ := h.mem_neighbours hx
  have hrounds : roundsTo x exact = true := by
    rw [roundsTo, hvalue, decide_eq_true_eq]
    by_cases hneg : x < 0
    · rw [if_pos hneg, abs_of_neg hneg, neg_neg]
      exact h
    · rw [if_neg hneg, abs_of_nonneg (not_lt.mp hneg)]
      exact h
  cases hsearch : shortestDecimal x with
  | none =>
    have hnone := List.findSome?_eq_none_iff.mp hsearch 1399 (List.mem_range.mpr (by omega))
    exact absurd hrounds (List.find?_eq_none.mp hnone exact hmem)
  | some d =>
    obtain ⟨k, -, hfind⟩ := List.exists_of_findSome?_eq_some hsearch
    exact ⟨d, rfl, List.find?_some hfind⟩

/-- The number of the text of a double is the double. -/
theorem textNumber_numberText {x : ℚ} (h : IsDouble x) :
    textNumber (numberText (.finite x)) = .finite x := by
  rw [numberText, Numeral.textNumber_text, numeralOf]
  split_ifs with hzero
  · rw [hzero]
    have hvalue : zeroNumeral.value = ((0 : ℕ) : ℚ) := by
      norm_num [Numeral.value, Numeral.magnitude, zeroNumeral, decimalValue, Nat.ofDigitChars]
    rw [hvalue, nearestDouble_natCast (by norm_num)]
    rfl
  · obtain ⟨d, hd, hrounds⟩ := h.exists_shortestDecimal hzero
    rw [hd]
    show nearestDouble (d.toNumeral (decide (x < 0))).value = _
    rw [Decimal.toNumeral_value]
    simpa only [roundsTo, decide_eq_true_eq] using hrounds

example : numberText (.finite (3 / 2)) = "1.5" := by decide +kernel

end SmartAccountKit.Lib
