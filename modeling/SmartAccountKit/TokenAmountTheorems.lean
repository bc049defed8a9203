import Mathlib.Tactic.FieldSimp
import Mathlib.Tactic.Positivity
import SmartAccountKit.TokenAmount

/-!
# Token amounts are scaled exactly

Expanding a text keeps the number that it denotes, and the raw units are that
number times a power of ten: with no more digits than the token has, nothing is
rounded.
-/

namespace SmartAccountKit
open Lib

/-! ## Digits -/

theorem ofBeDigits_append (b : ℕ) (xs ys : List ℕ) :
    ofBeDigits b (xs ++ ys) = ofBeDigits b xs * b ^ ys.length + ofBeDigits b ys := by
  induction ys using List.reverseRecOn with
  | nil => simp
  | append_singleton ys d ih =>
    rw [← List.append_assoc, ofBeDigits_append_singleton, ofBeDigits_append_singleton, ih,
      List.length_append, List.length_singleton, pow_succ]
    ring

theorem digitsValue_append (xs ys : List (Fin 10)) :
    digitsValue (xs ++ ys) = digitsValue xs * 10 ^ ys.length + digitsValue ys := by
  unfold digitsValue
  rw [List.map_append, ofBeDigits_append, List.length_map]

theorem digitsValue_zeros (k : ℕ) : digitsValue (List.replicate k 0) = 0 := by
  induction k with
  | zero => rfl
  | succ k ih =>
    rw [List.replicate_succ', digitsValue_append, ih]
    rfl

/-- Zeros before digits change nothing. -/
theorem digitsValue_zeros_append (k : ℕ) (ds : List (Fin 10)) :
    digitsValue (List.replicate k 0 ++ ds) = digitsValue ds := by
  rw [digitsValue_append, digitsValue_zeros]
  omega

/-- Zeros after digits are powers of ten. -/
theorem digitsValue_append_zeros (ds : List (Fin 10)) (k : ℕ) :
    digitsValue (ds ++ List.replicate k 0) = digitsValue ds * 10 ^ k := by
  rw [digitsValue_append, digitsValue_zeros, List.length_replicate]
  omega

/-! ## Expansion -/

/-- The number that a plain notation denotes. -/
def plainValue (plain : List (Fin 10) × List (Fin 10)) : ℚ :=
  DecimalText.value { whole := plain.1, fraction := plain.2 }

theorem plainValue_eq (whole fraction : List (Fin 10)) :
    plainValue (whole, fraction) =
      digitsValue (whole ++ fraction) * (10 : ℚ) ^ (-(fraction.length : ℤ)) := by
  rw [plainValue, DecimalText.value]
  simp

/-- A text and its expansion denote one number. -/
theorem plainValue_expandDecimal (text : DecimalText) :
    plainValue (expandDecimal text) = text.value := by
  have hten : (10 : ℚ) ≠ 0 := by norm_num
  unfold expandDecimal DecimalText.value
  cases text.exponent with
  | none =>
    rw [plainValue_eq]
    simp
  | some exponent =>
    dsimp only
    rw [Option.getD_some]
    set digits := text.whole ++ text.fraction with hdigits
    have hlength : digits.length = text.whole.length + text.fraction.length := by
      rw [hdigits, List.length_append]
    split_ifs with hleft hright
    · -- the point stands before the digits
      have hzero : digitsValue ([0] ++ (List.replicate (-(text.whole.length + exponent)).toNat 0 ++
          digits)) = digitsValue digits := by
        rw [show ([0] : List (Fin 10)) = List.replicate 1 0 from rfl, digitsValue_zeros_append,
          digitsValue_zeros_append]
      rw [plainValue_eq, hzero, List.length_append, List.length_replicate]
      congr 2
      push_cast
      omega
    · -- the point stands after the digits
      rw [plainValue_eq, List.append_nil, digitsValue_append_zeros]
      push_cast
      rw [List.length_nil, mul_assoc, ← zpow_natCast, ← zpow_add₀ hten]
      congr 2
      push_cast
      omega
    · rw [plainValue_eq, List.take_append_drop, List.length_drop]
      congr 2
      omega

/-! ## Scaling -/

/-- Padding the fraction to the decimals of the token scales the number. -/
theorem digitsValue_padEnd {whole fraction : List (Fin 10)} {decimals : ℕ}
    (h : fraction.length ≤ decimals) :
    (digitsValue (whole ++ padEnd fraction decimals) : ℚ) =
      plainValue (whole, fraction) * 10 ^ decimals := by
  have hten : (10 : ℚ) ≠ 0 := by norm_num
  rw [padEnd, ← List.append_assoc, digitsValue_append_zeros, plainValue_eq, mul_assoc]
  push_cast
  rw [← zpow_natCast, ← zpow_natCast, ← zpow_add₀ hten]
  congr 2
  push_cast [h]
  omega

theorem checkDecimals_eq_ok {decimals : JsNumber} {d : ℕ} :
    checkDecimals decimals = .ok d ↔ decimals = .ofNat d ∧ d ≤ 18 := by
  unfold checkDecimals JsNumber.ofNat
  cases decimals with
  | infinite negative => simp
  | nan => simp
  | finite value =>
    dsimp only
    constructor
    · intro h
      split_ifs at h with hinteger
      obtain ⟨hden, hnum, hbound⟩ := hinteger
      rw [Except.ok.injEq] at h
      refine ⟨?_, by omega⟩
      have hcast : (d : ℤ) = value.num := by omega
      rw [JsNumber.finite.injEq, ← Int.cast_natCast, hcast]
      exact (Rat.den_eq_one_iff value).mp hden |>.symm
    · rintro ⟨hvalue, hd⟩
      rw [JsNumber.finite.injEq] at hvalue
      rw [hvalue, if_pos ⟨rfl, by simp, by simpa using hd⟩]
      simp

/-- The integer part of an amount is a safe integer. -/
def DecimalText.isSafe (text : DecimalText) : Bool :=
  (JsNumber.finite ⌊text.value⌋).isSafeInteger

theorem DecimalText.isSafe_iff {text : DecimalText} (hpos : 0 < text.value) :
    text.isSafe = true ↔ text.value < 2 ^ 53 := by
  have hfloor : 0 ≤ ⌊text.value⌋ := Int.floor_nonneg.mpr hpos.le
  unfold DecimalText.isSafe JsNumber.isSafeInteger
  simp only [Rat.den_intCast, Rat.num_intCast, true_and, decide_eq_true_eq]
  have hbound : ⌊text.value⌋ < (2 : ℤ) ^ 53 ↔ text.value < 2 ^ 53 := by
    rw [Int.floor_lt]
    push_cast
    exact Iff.rfl
  rw [← hbound]
  omega

theorem positiveText_eq_some {amount : PrintedNumber} {text : DecimalText} :
    amount.positiveText = some text ↔ amount = .finite false text ∧ 0 < text.value := by
  unfold PrintedNumber.positiveText
  split
  · rename_i printed
    by_cases hpos : 0 < printed.value
    · rw [if_pos hpos, Option.some.injEq, PrintedNumber.finite.injEq]
      constructor
      · rintro rfl
        exact ⟨⟨rfl, rfl⟩, hpos⟩
      · exact fun h => h.1.2
    · rw [if_neg hpos]
      refine iff_of_false (fun h => nomatch h) ?_
      rintro ⟨hprinted, htext⟩
      rw [PrintedNumber.finite.injEq] at hprinted
      exact hpos (hprinted.2 ▸ htext)
  · rename_i hother
    exact iff_of_false (fun h => nomatch h) fun h => hother text h.1

/-- An amount is scaled where it is positive, below the safe integers and has no more digits than
the token; the raw units are then its number times a power of ten. -/
theorem tokenAmountToRawUnits_eq_ok {amount : PrintedNumber} {decimals : JsNumber} {raw : ℕ} :
    tokenAmountToRawUnits amount decimals = .ok raw ↔ ∃ text d,
      amount = .finite false text ∧ 0 < text.value ∧ text.isSafe = true ∧ decimals = .ofNat d ∧
        d ≤ 18 ∧ (expandDecimal text).2.length ≤ d ∧ (raw : ℚ) = text.value * 10 ^ d := by
  have hscaled : ∀ (text : DecimalText) (d : ℕ), (expandDecimal text).2.length ≤ d →
      (digitsValue ((expandDecimal text).1 ++ padEnd (expandDecimal text).2 d) : ℚ) =
        text.value * 10 ^ d := by
    intro text d hlength
    rw [digitsValue_padEnd hlength, plainValue_expandDecimal]
  -- below one the integer part is zero, which is safe
  have hwide : ∀ text : DecimalText, 0 < text.value →
      (¬(1 ≤ text.value ∧ (!(JsNumber.finite ⌊text.value⌋).isSafeInteger) = true) ↔
        text.isSafe = true) := by
    intro text hpos
    by_cases hone : 1 ≤ text.value
    · show ¬(1 ≤ text.value ∧ (!text.isSafe) = true) ↔ _
      simp [hone]
    · have hsmall : text.value < 2 ^ 53 := (not_le.mp hone).trans (by norm_num)
      exact iff_of_true (fun h => hone h.1) ((DecimalText.isSafe_iff hpos).mpr hsmall)
  unfold tokenAmountToRawUnits
  cases hamount : amount.positiveText with
  | none =>
    refine iff_of_false (fun h => nomatch h) ?_
    rintro ⟨text, d, hfinite, hpos, -⟩
    rw [positiveText_eq_some.mpr ⟨hfinite, hpos⟩] at hamount
    exact nomatch hamount
  | some text =>
    obtain ⟨hfinite, hpos⟩ := positiveText_eq_some.mp hamount
    dsimp only
    constructor
    · intro h
      obtain ⟨d, hd, h⟩ := except_bind_eq_ok.mp h
      obtain ⟨hdecimals, hbound⟩ := checkDecimals_eq_ok.mp hd
      obtain ⟨hsafe, h⟩ := throwIf_bind_eq_ok.mp h
      obtain ⟨hlength, h⟩ := throwIf_bind_eq_ok.mp h
      obtain ⟨-, h⟩ := throwIf_bind_eq_ok.mp h
      rw [except_pure_eq_ok] at h
      have hlength : (expandDecimal text).2.length ≤ d := Nat.le_of_not_lt hlength
      refine ⟨text, d, hfinite, hpos, (hwide text hpos).mp hsafe, hdecimals, hbound, hlength, ?_⟩
      rw [← h]
      exact hscaled text d hlength
    · rintro ⟨text', d, hfinite', -, hsafe, hdecimals, hbound, hlength, hraw⟩
      obtain rfl : text = text' := by
        rw [hfinite, PrintedNumber.finite.injEq] at hfinite'
        exact hfinite'.2
      have hvalue : digitsValue ((expandDecimal text).1 ++ padEnd (expandDecimal text).2 d) =
          raw := by
        have hcast := (hscaled text d hlength).trans hraw.symm
        exact_mod_cast hcast
      have hpositive : raw ≠ 0 := by
        rintro rfl
        have : (0 : ℚ) < text.value * 10 ^ d := by positivity
        rw [← hraw] at this
        simp at this
      refine except_bind_eq_ok.mpr ⟨d, checkDecimals_eq_ok.mpr ⟨hdecimals, hbound⟩, ?_⟩
      refine throwIf_bind_eq_ok.mpr ⟨(hwide text hpos).mpr hsafe, ?_⟩
      refine throwIf_bind_eq_ok.mpr ⟨Nat.not_lt.mpr hlength, ?_⟩
      refine throwIf_bind_eq_ok.mpr ⟨?_, ?_⟩
      · rw [hvalue]
        exact hpositive
      · rw [hvalue]
        rfl

/-- Raw units are positive and fit in an `i128`. -/
theorem tokenAmountToRawUnits_range {amount : PrintedNumber} {decimals : JsNumber} {raw : ℕ}
    (h : tokenAmountToRawUnits amount decimals = .ok raw) : 1 ≤ raw ∧ raw < 2 ^ 127 := by
  obtain ⟨text, d, -, hpos, hsafe, -, hd, -, hraw⟩ := tokenAmountToRawUnits_eq_ok.mp h
  rw [DecimalText.isSafe_iff hpos] at hsafe
  have hpower : (10 : ℚ) ^ d ≤ 10 ^ 18 := pow_le_pow_right₀ (by norm_num) hd
  have hlow : (0 : ℚ) < raw := by
    rw [hraw]
    positivity
  have hhigh : (raw : ℚ) < 2 ^ 127 := by
    calc (raw : ℚ) = text.value * 10 ^ d := hraw
      _ ≤ text.value * 10 ^ 18 := by gcongr
      _ < 2 ^ 53 * 10 ^ 18 := by gcongr
      _ < 2 ^ 127 := by norm_num
  exact ⟨by exact_mod_cast hlow, by exact_mod_cast hhigh⟩

/-- A positive amount below the safe integers is scaled to its number times ten to the decimals of
the token, if its expansion has no more digits after the point, and refused otherwise. -/
theorem tokenAmountToRawUnits_exact {text : DecimalText} {d : ℕ} (hpos : 0 < text.value)
    (hsafe : text.isSafe = true) (hd : d ≤ 18) :
    ((expandDecimal text).2.length ≤ d → ∃ raw : ℕ,
        tokenAmountToRawUnits (.finite false text) (.ofNat d) = .ok raw ∧
          (raw : ℚ) = text.value * 10 ^ d) ∧
      (d < (expandDecimal text).2.length → ∃ error,
        tokenAmountToRawUnits (.finite false text) (.ofNat d) = .error error) ∧
      (∀ amount decimals raw, tokenAmountToRawUnits amount decimals = .ok raw →
        1 ≤ raw ∧ raw < 2 ^ 127) ∧
      ∀ printed : DecimalText, plainValue (expandDecimal printed) = printed.value := by
  refine ⟨?_, ?_, fun amount decimals raw => tokenAmountToRawUnits_range, plainValue_expandDecimal⟩
  · intro hlength
    have hscaled := @digitsValue_padEnd (expandDecimal text).1 _ _ hlength
    rw [Prod.mk.eta, plainValue_expandDecimal] at hscaled
    exact ⟨_, tokenAmountToRawUnits_eq_ok.mpr
      ⟨text, d, rfl, hpos, hsafe, rfl, hd, hlength, hscaled⟩, hscaled⟩
  · intro hlength
    cases hresult : tokenAmountToRawUnits (.finite false text) (.ofNat d) with
    | error error => exact ⟨error, rfl⟩
    | ok raw =>
      obtain ⟨text', d', htext, -, -, hdecimals, -, hfits, -⟩ :=
        tokenAmountToRawUnits_eq_ok.mp hresult
      obtain rfl : text = text' := (PrintedNumber.finite.inj htext).2
      have hsame : d = d' := by
        rw [JsNumber.ofNat, JsNumber.ofNat, JsNumber.finite.injEq] at hdecimals
        exact_mod_cast hdecimals
      omega

/-- One and a half units of a token with seven decimals. -/
theorem tokenAmountToRawUnits_exact_sample :
    ∃ raw : ℕ, tokenAmountToRawUnits (.finite false { whole := [1], fraction := [5] }) (.ofNat 7) =
      .ok raw ∧ (raw : ℚ) = DecimalText.value { whole := [1], fraction := [5] } * 10 ^ 7 :=
  (tokenAmountToRawUnits_exact (by decide +kernel) (by decide +kernel) (by decide)).1 (by decide)

end SmartAccountKit
