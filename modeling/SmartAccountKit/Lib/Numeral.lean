import SmartAccountKit.Lib.NumberText

/-!
# Decimal numerals

The numerals that a JSON text and `Number(text)` both read: a whole part without
leading zeros, a fraction and an exponent with its sign. The two readers read
the text of a numeral back as the numeral and as its value.
-/

namespace SmartAccountKit.Lib

/-! ## Digits -/

/-- The number of some decimal digits. -/
def decimalValue (cs : List Char) : ℕ := Nat.ofDigitChars 10 cs 0

@[simp] theorem decimalValue_toDigits (n : ℕ) : decimalValue (Nat.toDigits 10 n) = n :=
  Nat.ofDigitChars_ten_toDigits

theorem isDigit_toDigits (n : ℕ) : ∀ c ∈ Nat.toDigits 10 n, c.isDigit = true :=
  fun _ hc => Nat.isDigit_of_mem_toDigits (by omega) (by omega) hc

theorem isDigit_replicate_zero (m : ℕ) : ∀ c ∈ List.replicate m '0', c.isDigit = true := by
  intro c hc
  rw [(List.mem_replicate.mp hc).2]
  decide

theorem decimalValue_append_zeros (cs : List Char) (m : ℕ) :
    decimalValue (cs ++ List.replicate m '0') = decimalValue cs * 10 ^ m := by
  rw [decimalValue, Nat.ofDigitChars_append, Nat.ofDigitChars_replicate_zero, Nat.mul_comm,
    decimalValue]

theorem decimalValue_zeros_append (cs : List Char) (m : ℕ) :
    decimalValue (List.replicate m '0' ++ cs) = decimalValue cs := by
  rw [decimalValue, Nat.ofDigitChars_append, Nat.ofDigitChars_replicate_zero, Nat.mul_zero,
    decimalValue]

theorem foldl_hexValue {cs : List Char} (hdigits : ∀ c ∈ cs, c.isDigit = true) (n : ℕ) :
    ∃ ds, cs.mapM (fun c => (hexValue c).filter (· < 10)) = some ds ∧
      ds.foldl (fun m d => m * 10 + d) n = Nat.ofDigitChars 10 cs n := by
  induction cs generalizing n with
  | nil => exact ⟨[], rfl, Nat.ofDigitChars_nil.symm⟩
  | cons c cs ih =>
    have hc : c.isDigit = true := hdigits c List.mem_cons_self
    obtain ⟨d, hd, hchar⟩ := exists_of_isDigit hc
    have hall : ∀ d < 10, (hexValue (Char.ofNat (48 + d))).filter (· < 10) = some d ∧
        (Char.ofNat (48 + d)).toNat - '0'.toNat = d := by
      decide
    obtain ⟨ds, hds, hfold⟩ := ih (fun e he => hdigits e (List.mem_cons_of_mem c he)) (n * 10 + d)
    refine ⟨d :: ds, ?_, ?_⟩
    · rw [List.mapM_cons, hds, hchar, (hall d hd).1]
      rfl
    · rw [List.foldl_cons, hfold, Nat.ofDigitChars_cons, hchar, (hall d hd).2, Nat.mul_comm]

theorem baseDigits?_digits {cs : List Char} (hne : cs ≠ [])
    (hdigits : ∀ c ∈ cs, c.isDigit = true) : baseDigits? 10 cs = some (decimalValue cs) := by
  obtain ⟨ds, hds, hfold⟩ := foldl_hexValue hdigits 0
  rw [baseDigits?, if_neg hne, hds, Option.map_some, decimalValue, ← hfold]
  rfl

/-! ## Numerals -/

/-- A decimal numeral. The whole part has a leading zero only if it is zero. -/
structure Numeral where
  negative : Bool := false
  whole : List Char
  fraction : List Char := []
  exponent : Option ℤ := none
  whole_digits : ∀ c ∈ whole, c.isDigit = true
  whole_head : whole = ['0'] ∨ ∃ c cs, whole = c :: cs ∧ c ≠ '0'
  fraction_digits : ∀ c ∈ fraction, c.isDigit = true

namespace Numeral

/-- The exponent of a numeral, which is always written with its sign. -/
def exponentText : Option ℤ → List Char
  | none => []
  | some e => 'e' :: (if e < 0 then '-' else '+') :: Nat.toDigits 10 e.natAbs

def fractionText (n : Numeral) : List Char := if n.fraction = [] then [] else '.' :: n.fraction

/-- The text of a numeral without its sign. -/
def magnitudeText (n : Numeral) : List Char :=
  n.whole ++ (n.fractionText ++ exponentText n.exponent)

def text (n : Numeral) : List Char := (if n.negative then ['-'] else []) ++ n.magnitudeText

/-- What a numeral denotes without its sign. -/
def magnitude (n : Numeral) : ℚ :=
  (decimalValue (n.whole ++ n.fraction) : ℚ) * 10 ^ (n.exponent.getD 0 - n.fraction.length)

def value (n : Numeral) : ℚ := if n.negative then -n.magnitude else n.magnitude

theorem whole_ne_nil (n : Numeral) : n.whole ≠ [] := by
  rcases n.whole_head with hzero | ⟨c, cs, hcons, -⟩
  · rw [hzero]
    exact List.cons_ne_nil _ _
  · rw [hcons]
    exact List.cons_ne_nil _ _

/-- The text of a numeral without its sign starts with a digit. -/
theorem exists_magnitudeText (n : Numeral) :
    ∃ c cs, n.magnitudeText = c :: cs ∧ c.isDigit = true := by
  obtain ⟨c, cs, hcons⟩ := List.exists_cons_of_ne_nil n.whole_ne_nil
  refine ⟨c, cs ++ (n.fractionText ++ exponentText n.exponent), ?_, ?_⟩
  · rw [magnitudeText, hcons, List.cons_append]
  · apply n.whole_digits
    rw [hcons]
    exact List.mem_cons_self

end Numeral

/-! ## Reading -/

/-- A text that does not go on with a numeral before it. -/
def EndsNumber (cs : List Char) : Prop :=
  ∀ c ∈ cs.head?, c.isDigit = false ∧ c ≠ '.' ∧ c ≠ 'e' ∧ c ≠ 'E'

theorem endsNumber_nil : EndsNumber [] := by
  intro c hc
  exact absurd hc (Option.not_mem_none c)

theorem takeWhile_digits {cs ds : List Char} (hdigits : ∀ c ∈ cs, c.isDigit = true)
    (hstop : ∀ c ∈ ds.head?, c.isDigit = false) :
    (cs ++ ds).takeWhile Char.isDigit = cs ∧ (cs ++ ds).dropWhile Char.isDigit = ds := by
  have hds : ds.takeWhile Char.isDigit = [] ∧ ds.dropWhile Char.isDigit = ds := by
    cases ds with
    | nil => exact ⟨rfl, rfl⟩
    | cons d ds =>
      have hd : ¬d.isDigit = true := by
        rw [hstop d rfl]
        exact Bool.false_ne_true
      exact ⟨List.takeWhile_cons_of_neg hd, List.dropWhile_cons_of_neg hd⟩
  rw [List.takeWhile_append_of_pos hdigits, List.dropWhile_append_of_pos hdigits, hds.1, hds.2,
    List.append_nil]
  exact ⟨rfl, rfl⟩

theorem readJsonDigits_append {cs ds : List Char} (hne : cs ≠ [])
    (hdigits : ∀ c ∈ cs, c.isDigit = true) (hstop : ∀ c ∈ ds.head?, c.isDigit = false) :
    readJsonDigits (cs ++ ds) = some (cs, ds) := by
  obtain ⟨htake, hdrop⟩ := takeWhile_digits hdigits hstop
  simp only [readJsonDigits, htake, hdrop, if_neg hne]

namespace Numeral

/-- What follows the whole part does not start with a digit. -/
theorem not_digit_after_whole (n : Numeral) {rest : List Char} (hrest : EndsNumber rest) :
    ∀ c ∈ (n.fractionText ++ (exponentText n.exponent ++ rest)).head?, c.isDigit = false := by
  intro c hc
  unfold fractionText at hc
  split_ifs at hc
  · cases hexponent : n.exponent with
    | none =>
      rw [hexponent] at hc
      exact (hrest c hc).1
    | some e =>
      rw [hexponent] at hc
      have hchar : 'e' = c := Option.some.inj hc
      rw [← hchar]
      decide
  · have hchar : '.' = c := Option.some.inj hc
    rw [← hchar]
    decide

theorem not_digit_after_fraction (exponent : Option ℤ) {rest : List Char}
    (hrest : EndsNumber rest) :
    ∀ c ∈ (exponentText exponent ++ rest).head?, c.isDigit = false ∧ c ≠ '.' := by
  intro c hc
  cases exponent with
  | none => exact ⟨(hrest c hc).1, (hrest c hc).2.1⟩
  | some e =>
    have hchar : 'e' = c := Option.some.inj hc
    rw [← hchar]
    decide

theorem readIntegerPart_whole (n : Numeral) {rest : List Char}
    (hrest : ∀ c ∈ rest.head?, c.isDigit = false) :
    readIntegerPart (n.whole ++ rest) = some (n.whole, rest) := by
  rcases n.whole_head with hzero | ⟨c, cs, hcons, hc⟩
  · rw [hzero]
    rfl
  · have hread : readIntegerPart (n.whole ++ rest) = readJsonDigits (n.whole ++ rest) := by
      rw [hcons, List.cons_append, readIntegerPart]
      rintro ds heq
      exact absurd (List.cons.inj heq).1 hc
    rw [hread, readJsonDigits_append n.whole_ne_nil n.whole_digits hrest]

theorem readFraction_fractionText (n : Numeral) {rest : List Char}
    (hrest : ∀ c ∈ rest.head?, c.isDigit = false ∧ c ≠ '.') :
    readFraction (n.fractionText ++ rest) = some (n.fractionText, rest) := by
  unfold fractionText
  split_ifs with hnil
  · rw [List.nil_append, readFraction]
    rintro ds rfl
    exact absurd rfl (hrest '.' rfl).2
  · show (readJsonDigits (n.fraction ++ rest)).bind _ = _
    rw [readJsonDigits_append hnil n.fraction_digits fun c hc => (hrest c hc).1]
    rfl

theorem readExponent_exponentText (exponent : Option ℤ) {rest : List Char}
    (hrest : EndsNumber rest) :
    readExponent (exponentText exponent ++ rest) = some (exponentText exponent, rest) := by
  cases exponent with
  | none =>
    cases rest with
    | nil => rfl
    | cons c cs =>
      have hc : ¬(c = 'e' ∨ c = 'E') := not_or.mpr (hrest c rfl).2.2
      show (if c = 'e' ∨ c = 'E' then _ else some ([], c :: cs)) = _
      rw [if_neg hc]
      rfl
  | some e =>
    have hsign : (if e < 0 then '-' else '+') = '+' ∨ (if e < 0 then '-' else '+') = '-' := by
      split_ifs
      · exact Or.inr rfl
      · exact Or.inl rfl
    have hdigits : readJsonDigits (Nat.toDigits 10 e.natAbs ++ rest) =
        some (Nat.toDigits 10 e.natAbs, rest) :=
      readJsonDigits_append Nat.toDigits_ne_nil (isDigit_toDigits _) fun c hc => (hrest c hc).1
    simp only [exponentText, List.cons_append, readExponent, true_or, if_true, if_pos hsign,
      hdigits, Option.bind_eq_bind, Option.bind_some, Option.pure_def]

/-- A numeral is read from a JSON text as it is written. -/
theorem readJsonNumber_text (n : Numeral) {rest : List Char} (hrest : EndsNumber rest) :
    readJsonNumber (n.text ++ rest) = some (.number n.text, rest) := by
  have hmagnitude : n.magnitudeText ++ rest =
      n.whole ++ (n.fractionText ++ (exponentText n.exponent ++ rest)) := by
    rw [magnitudeText, List.append_assoc, List.append_assoc]
  have hwhole := n.readIntegerPart_whole (n.not_digit_after_whole hrest)
  have hfraction := n.readFraction_fractionText (not_digit_after_fraction n.exponent hrest)
  have hexponent := readExponent_exponentText n.exponent hrest
  have hjoin : n.whole ++ n.fractionText ++ exponentText n.exponent = n.magnitudeText :=
    List.append_assoc _ _ _
  cases hneg : n.negative with
  | true =>
    have htext : n.text = '-' :: n.magnitudeText := by rw [text, hneg]; rfl
    rw [htext, List.cons_append, hmagnitude]
    simp only [readJsonNumber, hwhole, hfraction, hexponent, Option.bind_eq_bind,
      Option.bind_some, Option.pure_def, List.cons_append, List.nil_append, hjoin]
  | false =>
    have htext : n.text = n.magnitudeText := by rw [text, hneg]; rfl
    obtain ⟨c, cs, hcons, hc⟩ := n.exists_magnitudeText
    have hhead : c ≠ '-' := by
      rintro rfl
      exact absurd hc (by decide)
    rw [hcons, List.cons_append] at hmagnitude
    rw [htext, hcons, List.cons_append, readJsonNumber]
    · simp only [hmagnitude, hwhole, hfraction, hexponent, Option.bind_eq_bind, Option.bind_some,
        Option.pure_def, List.nil_append, hjoin, hcons]
    · rintro ds heq
      exact absurd (List.cons.inj heq).1 hhead

/-! ## Values -/

theorem exponent?_exponentText (exponent : Option ℤ) :
    exponent? (exponentText exponent) = some (exponent.getD 0) := by
  cases exponent with
  | none => rfl
  | some e =>
    have hdigits := baseDigits?_digits (Nat.toDigits_ne_nil (n := e.natAbs)) (isDigit_toDigits _)
    rw [decimalValue_toDigits] at hdigits
    have hsign : readSign ((if e < 0 then '-' else '+') :: Nat.toDigits 10 e.natAbs) =
        (decide (e < 0), Nat.toDigits 10 e.natAbs) := by
      by_cases he : e < 0
      · rw [if_pos he, decide_eq_true he]
        rfl
      · rw [if_neg he, decide_eq_false he]
        rfl
    have hvalue : (if e < 0 then -(e.natAbs : ℤ) else e.natAbs) = e := by
      split_ifs <;> omega
    simp only [exponentText, exponent?, true_or, if_true, hsign, hdigits, decide_eq_true_eq,
      Option.getD_some]
    exact congrArg some hvalue

theorem decimalNumeral?_magnitudeText (n : Numeral) :
    decimalNumeral? n.magnitudeText = some n.magnitude := by
  have hends : exponentText n.exponent = exponentText n.exponent ++ [] := (List.append_nil _).symm
  have hexponent := exponent?_exponentText n.exponent
  have hdigits : baseDigits? 10 (n.whole ++ n.fraction) =
      some (decimalValue (n.whole ++ n.fraction)) := by
    apply baseDigits?_digits
    · exact List.append_ne_nil_of_left_ne_nil n.whole_ne_nil _
    · intro c hc
      rcases List.mem_append.mp hc with hwhole | hfraction
      · exact n.whole_digits c hwhole
      · exact n.fraction_digits c hfraction
  have hsplit := takeWhile_digits n.whole_digits (n.not_digit_after_whole endsNumber_nil)
  rw [← hends] at hsplit
  have hafter := not_digit_after_fraction n.exponent endsNumber_nil
  rw [← hends] at hafter
  simp only [decimalNumeral?, magnitudeText, hsplit.1, hsplit.2]
  by_cases hnil : n.fraction = []
  · have htext : n.fractionText = [] := if_pos hnil
    rw [hnil, List.append_nil] at hdigits
    rw [htext, List.nil_append]
    split
    · rename_i rest heq
      rw [heq] at hafter
      exact absurd rfl (hafter '.' rfl).2
    · simp only [List.append_nil, hdigits, hexponent, Option.bind_eq_bind, Option.bind_some,
        Option.pure_def, List.length_nil, magnitude, hnil]
  · have htext : n.fractionText = '.' :: n.fraction := if_neg hnil
    have hfraction := takeWhile_digits n.fraction_digits fun c hc => (hafter c hc).1
    simp only [htext, List.cons_append, hfraction.1, hfraction.2, hdigits, hexponent,
      Option.bind_eq_bind, Option.bind_some, Option.pure_def, magnitude]

theorem isSpace_magnitudeText (n : Numeral) : ∀ c ∈ n.magnitudeText, isSpace c = false := by
  have hdigits : ∀ cs : List Char, (∀ c ∈ cs, c.isDigit = true) → ∀ c ∈ cs, isSpace c = false :=
    fun cs h c hc => isSpace_of_isDigit (h c hc)
  have hsigns : ∀ c ∈ ['.', 'e', '-', '+'], isSpace c = false := by simp [isSpace]
  intro c hc
  rw [magnitudeText, List.mem_append, List.mem_append] at hc
  rcases hc with hwhole | hfraction | hexponent
  · exact hdigits _ n.whole_digits c hwhole
  · unfold fractionText at hfraction
    split_ifs at hfraction
    · exact absurd hfraction List.not_mem_nil
    · rcases List.mem_cons.mp hfraction with rfl | hmem
      · exact hsigns _ (by simp)
      · exact hdigits _ n.fraction_digits c hmem
  · cases he : n.exponent with
    | none =>
      rw [he] at hexponent
      exact absurd hexponent List.not_mem_nil
    | some e =>
      rw [he] at hexponent
      rcases List.mem_cons.mp hexponent with rfl | hmem
      · exact hsigns _ (by simp)
      · rcases List.mem_cons.mp hmem with rfl | hmem
        · apply hsigns
          split_ifs <;> simp
        · exact hdigits _ (isDigit_toDigits _) c hmem

/-- A whole part of zero is not followed by the letter of another base. -/
theorem basedNumeral?_magnitudeText (n : Numeral) : basedNumeral? n.magnitudeText = none := by
  rcases n.whole_head with hzero | ⟨c, cs, hcons, hc⟩
  · have hnext : ∀ cs, (∀ c ∈ cs.head?, c = '.' ∨ c = 'e') → basedNumeral? ('0' :: cs) = none := by
      intro cs hcs
      cases cs with
      | nil => rfl
      | cons c cs =>
        rcases hcs c rfl with rfl | rfl
        · rfl
        · rfl
    rw [magnitudeText, hzero]
    apply hnext
    intro c hc
    unfold fractionText at hc
    split_ifs at hc
    · cases he : n.exponent with
      | none =>
        rw [he] at hc
        exact absurd hc (Option.not_mem_none c)
      | some e =>
        rw [he] at hc
        exact Or.inr (Option.some.inj hc).symm
    · exact Or.inl (Option.some.inj hc).symm
  · rw [magnitudeText, hcons, List.cons_append, basedNumeral?]
    rintro d ds heq
    exact absurd (List.cons.inj heq).1 hc

/-- The number of a numeral is the double nearest to its value. -/
theorem textNumber_text (n : Numeral) : textNumber (String.ofList n.text) = nearestDouble n.value := by
  obtain ⟨c, cs, hcons, hc⟩ := n.exists_magnitudeText
  have hinfinity : n.magnitudeText ≠ "Infinity".toList := by
    rw [hcons]
    rintro heq
    have hhead : c = 'I' := (List.cons.inj heq).1
    rw [hhead] at hc
    exact absurd hc (by decide)
  have hdecimal := n.decimalNumeral?_magnitudeText
  cases hneg : n.negative with
  | true =>
    have htext : n.text = '-' :: n.magnitudeText := by rw [text, hneg]; rfl
    have hspaces : ∀ c ∈ '-' :: n.magnitudeText, isSpace c = false := by
      intro c hc
      rcases List.mem_cons.mp hc with rfl | hmem
      · decide
      · exact n.isSpace_magnitudeText c hmem
    have hbased : basedNumeral? ('-' :: n.magnitudeText) = none := rfl
    have hsign : readSign ('-' :: n.magnitudeText) = (true, n.magnitudeText) := rfl
    rw [htext, textNumber, trim_eq_self hspaces, String.toList_ofList]
    simp only [if_neg (List.cons_ne_nil _ _), hbased, hsign, if_neg hinfinity, hdecimal, value,
      hneg, if_true]
  | false =>
    have htext : n.text = n.magnitudeText := by rw [text, hneg]; rfl
    have hne : n.magnitudeText ≠ [] := by
      rw [hcons]
      exact List.cons_ne_nil _ _
    have hsign : readSign n.magnitudeText = (false, n.magnitudeText) := by
      rw [hcons, readSign]
      · rintro ds heq
        rw [(List.cons.inj heq).1] at hc
        exact absurd hc (by decide)
      · rintro ds heq
        rw [(List.cons.inj heq).1] at hc
        exact absurd hc (by decide)
    rw [htext, textNumber, trim_eq_self n.isSpace_magnitudeText, String.toList_ofList]
    simp only [if_neg hne, n.basedNumeral?_magnitudeText, hsign, if_neg hinfinity, hdecimal, value,
      hneg, Bool.false_eq_true, if_false]

end Numeral

end SmartAccountKit.Lib
