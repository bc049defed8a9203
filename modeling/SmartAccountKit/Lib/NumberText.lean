import SmartAccountKit.Lib.Json
import SmartAccountKit.Lib.JsNumber
import SmartAccountKit.Lib.Search
import SmartAccountKit.Lib.Text
import Mathlib.Data.Int.Log

/-!
# The number of a text

`Number(value)` of a text and of a JSON value. A numeral denotes a rational
number, and its number is the double nearest to it.
-/

namespace SmartAccountKit.Lib

/-! ## Doubles -/

/-- The nearest integer, and the even one of two. -/
def roundHalfEven (q : ℚ) : ℤ :=
  let rest := q - ⌊q⌋
  if rest < 1 / 2 ∨ rest = 1 / 2 ∧ ⌊q⌋ % 2 = 0 then ⌊q⌋ else ⌊q⌋ + 1

/-- The double nearest to a rational number. A double has 53 binary digits, and its last digit
stands for at least `2 ^ (-1074)`. -/
def nearestDouble (q : ℚ) : JsNumber :=
  let unit : ℚ := 2 ^ max (Int.log 2 |q| - 52) (-1074)
  let value := roundHalfEven (q / unit) * unit
  if |value| < 2 ^ 1024 then .finite value else .infinite (q < 0)

theorem roundHalfEven_intCast (n : ℤ) : roundHalfEven n = n := by
  have hrest : (n : ℚ) - ⌊(n : ℚ)⌋ < 1 / 2 := by
    rw [Int.floor_intCast, sub_self]
    norm_num
  rw [roundHalfEven, if_pos (Or.inl hrest), Int.floor_intCast]

/-- A whole number of at most 53 binary digits is a double. -/
theorem nearestDouble_natCast {n : ℕ} (h : n < 2 ^ 53) : nearestDouble n = .ofNat n := by
  have hlog : Int.log 2 |(n : ℚ)| ≤ 52 := by
    rw [Nat.abs_cast, Int.log_natCast]
    have hlt : Nat.log 2 n < 53 := Nat.log_lt_of_lt_pow' (by omega) h
    omega
  -- the unit is one over a power of two, so the number is a multiple of it
  obtain ⟨k, hk⟩ : ∃ k : ℕ, max (Int.log 2 |(n : ℚ)| - 52) (-1074) = -(k : ℤ) :=
    ⟨(-max (Int.log 2 |(n : ℚ)| - 52) (-1074)).toNat, by omega⟩
  have hunit : (2 : ℚ) ^ (-(k : ℤ)) ≠ 0 := zpow_ne_zero _ (by norm_num)
  have hquotient : (n : ℚ) / 2 ^ (-(k : ℤ)) = ((n * 2 ^ k : ℕ) : ℤ) := by
    rw [zpow_neg, div_inv_eq_mul, zpow_natCast]
    push_cast
    rfl
  have hvalue : (roundHalfEven ((n : ℚ) / 2 ^ (-(k : ℤ))) : ℚ) * 2 ^ (-(k : ℤ)) = n := by
    rw [hquotient, roundHalfEven_intCast, ← hquotient, div_mul_cancel₀ _ hunit]
  have hsmall : |(n : ℚ)| < 2 ^ 1024 := by
    rw [Nat.abs_cast]
    calc (n : ℚ) < 2 ^ 53 := by exact_mod_cast h
      _ ≤ 2 ^ 1024 := pow_le_pow_right₀ (by norm_num) (by norm_num)
  simp only [nearestDouble, hk, hvalue, if_pos hsmall]
  rfl

/-- A whole number of more binary digits is not near a safe integer. -/
theorem not_isSafeInteger_nearestDouble {n : ℕ} (h : 2 ^ 53 ≤ n) :
    (nearestDouble n).isSafeInteger = false := by
  have hpos : (0 : ℚ) < n := by
    have : 0 < n := by omega
    exact_mod_cast this
  have hlog : (53 : ℤ) ≤ Int.log 2 |(n : ℚ)| := by
    rw [Nat.abs_cast, Int.log_natCast]
    have : 53 ≤ Nat.log 2 n := (Nat.le_log_iff_pow_le (by omega) (by omega)).mpr h
    exact_mod_cast this
  obtain ⟨k, hk⟩ : ∃ k : ℕ, Int.log 2 |(n : ℚ)| = 53 + k :=
    ⟨(Int.log 2 |(n : ℚ)| - 53).toNat, by omega⟩
  have hexponent : max (Int.log 2 |(n : ℚ)| - 52) (-1074) = ((k + 1 : ℕ) : ℤ) := by omega
  -- the quotient by the unit has 53 binary digits, and rounding does not make it smaller
  have hbelow : (2 : ℚ) ^ (53 + k) ≤ n := by
    have hself := Int.zpow_log_le_self (b := 2) (by omega) hpos
    rw [Nat.abs_cast] at hk
    rw [hk] at hself
    exact_mod_cast hself
  have hquotient : ((2 ^ 52 : ℤ) : ℚ) ≤ n / 2 ^ (k + 1) := by
    rw [le_div_iff₀ (by positivity)]
    calc ((2 ^ 52 : ℤ) : ℚ) * 2 ^ (k + 1) = 2 ^ (53 + k) := by push_cast; ring
      _ ≤ n := hbelow
  have hrounded : 2 ^ 52 ≤ roundHalfEven (n / 2 ^ (k + 1)) := by
    have hfloor : 2 ^ 52 ≤ ⌊(n : ℚ) / 2 ^ (k + 1)⌋ := Int.le_floor.mpr hquotient
    rw [roundHalfEven]
    split_ifs
    · exact hfloor
    · omega
  have hvalue : ((2 ^ 53 : ℤ) : ℚ) ≤ roundHalfEven (n / 2 ^ (k + 1)) * 2 ^ (k + 1) := by
    have hwide : (2 ^ 52 * 2 ^ 1 : ℤ) ≤ roundHalfEven (n / 2 ^ (k + 1)) * 2 ^ (k + 1) :=
      mul_le_mul hrounded (pow_le_pow_right₀ (by omega) (by omega)) (by positivity) (by omega)
    exact_mod_cast hwide
  simp only [nearestDouble, hexponent, zpow_natCast]
  split_ifs
  · have hnum : ¬((roundHalfEven (n / 2 ^ (k + 1)) * 2 ^ (k + 1) : ℚ).num.natAbs ≤ 2 ^ 53 - 1) := by
      have hcast : (roundHalfEven (n / 2 ^ (k + 1)) * 2 ^ (k + 1) : ℚ) =
          ((roundHalfEven (n / 2 ^ (k + 1)) * 2 ^ (k + 1) : ℤ) : ℚ) := by push_cast; rfl
      rw [hcast] at hvalue ⊢
      rw [Rat.num_intCast]
      have hle : (2 ^ 53 : ℤ) ≤ roundHalfEven (n / 2 ^ (k + 1)) * 2 ^ (k + 1) := by
        exact_mod_cast hvalue
      omega
    simp only [JsNumber.isSafeInteger]
    rw [decide_eq_false]
    exact fun hsafe => hnum hsafe.2
  · rfl

/-- The operator `+`. -/
def JsNumber.add : JsNumber → JsNumber → JsNumber
  | finite a, finite b => nearestDouble (a + b)
  | infinite negative, infinite negative' =>
    if negative = negative' then infinite negative else nan
  | infinite negative, finite _ => infinite negative
  | finite _, infinite negative => infinite negative
  | _, _ => nan

/-- Whole numbers are added exactly as long as the sum is safe. -/
theorem add_ofNat {m n : ℕ} (h : m + n < 2 ^ 53) :
    (JsNumber.ofNat m).add (.ofNat n) = .ofNat (m + n) := by
  have hcast : (m : ℚ) + n = ((m + n : ℕ) : ℚ) := (Nat.cast_add m n).symm
  show nearestDouble ((m : ℚ) + n) = _
  rw [hcast, nearestDouble_natCast h]

/-! ## Numerals -/

/-- The number of one or more digits of a base. -/
def baseDigits? (base : ℕ) (cs : List Char) : Option ℕ :=
  if cs = [] then none
  else (cs.mapM fun c => (hexValue c).filter (· < base)).map (ofBeDigits base)

/-- The base that the second character of a numeral such as `0x2a` names. -/
def prefixBase (c : Char) : Option ℕ :=
  if c = 'x' ∨ c = 'X' then some 16
  else if c = 'o' ∨ c = 'O' then some 8
  else if c = 'b' ∨ c = 'B' then some 2
  else none

/-- The number of a numeral with a base prefix. -/
def basedNumeral? : List Char → Option ℕ
  | '0' :: c :: digits => do baseDigits? (← prefixBase c) digits
  | _ => none

/-- A sign, if there is one, and what follows it. -/
def readSign : List Char → Bool × List Char
  | '+' :: cs => (false, cs)
  | '-' :: cs => (true, cs)
  | cs => (false, cs)

/-- The exponent that ends a numeral. -/
def exponent? : List Char → Option ℤ
  | [] => some 0
  | c :: cs =>
    if c = 'e' ∨ c = 'E' then
      let (negative, digits) := readSign cs
      (baseDigits? 10 digits).map fun n => if negative then -n else n
    else none

/-- The number of a decimal numeral without a sign. -/
def decimalNumeral? (cs : List Char) : Option ℚ :=
  let whole := cs.takeWhile Char.isDigit
  let (fraction, rest) := match cs.dropWhile Char.isDigit with
    | '.' :: rest => (rest.takeWhile Char.isDigit, rest.dropWhile Char.isDigit)
    | rest => ([], rest)
  do
    let digits ← baseDigits? 10 (whole ++ fraction)
    let exponent ← exponent? rest
    return digits * 10 ^ (exponent - fraction.length)

/-- `Number(text)`. -/
def textNumber (text : String) : JsNumber :=
  let cs := (trim text).toList
  if cs = [] then .ofNat 0
  else
    match basedNumeral? cs with
    | some n => nearestDouble n
    | none =>
      let (negative, digits) := readSign cs
      if digits = "Infinity".toList then .infinite negative
      else
        match decimalNumeral? digits with
        | some value => nearestDouble (if negative then -value else value)
        | none => .nan

theorem exists_of_isDigit {c : Char} (h : c.isDigit = true) :
    ∃ d < 10, c = Char.ofNat (48 + d) := by
  have hrange : 48 ≤ c.toNat ∧ c.toNat ≤ 57 := by
    simp only [Char.isDigit, Bool.and_eq_true, decide_eq_true_eq] at h
    exact ⟨h.1, h.2⟩
  refine ⟨c.toNat - 48, by omega, ?_⟩
  rw [show 48 + (c.toNat - 48) = c.toNat by omega, Char.ofNat_toNat]

theorem isSpace_of_isDigit {c : Char} (h : c.isDigit = true) : isSpace c = false := by
  obtain ⟨d, hd, rfl⟩ := exists_of_isDigit h
  revert d
  decide

theorem hexValue_of_isDigit {c : Char} (h : c.isDigit = true) :
    ∃ d < 10, hexValue c = some d ∧ (c ≠ '0' → 0 < d) := by
  obtain ⟨d, hd, rfl⟩ := exists_of_isDigit h
  have hall : ∀ d < 10, hexValue (Char.ofNat (48 + d)) = some d ∧
      (Char.ofNat (48 + d) ≠ '0' → 0 < d) := by
    decide
  exact ⟨d, hd, hall d hd⟩

theorem mapM_hexValue_of_isDigit {cs : List Char} (hdigits : ∀ c ∈ cs, c.isDigit = true) :
    ∃ ds, cs.mapM (fun c => (hexValue c).filter (· < 10)) = some ds := by
  induction cs with
  | nil => exact ⟨[], rfl⟩
  | cons c cs ih =>
    obtain ⟨ds, hds⟩ := ih fun d hd => hdigits d (List.mem_cons_of_mem c hd)
    obtain ⟨d, hd, hvalue, -⟩ := hexValue_of_isDigit (hdigits c List.mem_cons_self)
    have hfilter : (hexValue c).filter (· < 10) = some d := by
      rw [hvalue, Option.filter_some, if_pos (decide_eq_true hd)]
    exact ⟨d :: ds, by rw [List.mapM_cons, hfilter, hds]; rfl⟩

theorem le_ofBeDigits_cons {b d : ℕ} (hb : 0 < b) (ds : List ℕ) : d ≤ ofBeDigits b (d :: ds) := by
  have hstart : ofBeDigits b [d] = d := by simp [ofBeDigits]
  induction ds using List.reverseRecOn with
  | nil => exact hstart.ge
  | append_singleton ds e ih =>
    rw [← List.cons_append, ofBeDigits_append_singleton]
    calc d ≤ ofBeDigits b (d :: ds) := ih
      _ ≤ ofBeDigits b (d :: ds) * b := Nat.le_mul_of_pos_right _ hb
      _ ≤ ofBeDigits b (d :: ds) * b + e := Nat.le_add_right _ _

/-- Digits denote a number, which is positive if the first of them is not zero. -/
theorem baseDigits?_of_isDigit {c : Char} {cs : List Char} (hc : c ≠ '0')
    (hdigits : ∀ d ∈ c :: cs, d.isDigit = true) :
    ∃ n, baseDigits? 10 (c :: cs) = some n ∧ 0 < n := by
  obtain ⟨d, hd, hvalue, hpos⟩ := hexValue_of_isDigit (hdigits c List.mem_cons_self)
  obtain ⟨ds, hds⟩ := mapM_hexValue_of_isDigit fun e he => hdigits e (List.mem_cons_of_mem c he)
  have hfilter : (hexValue c).filter (· < 10) = some d := by
    rw [hvalue, Option.filter_some, if_pos (decide_eq_true hd)]
  refine ⟨ofBeDigits 10 (d :: ds), ?_, lt_of_lt_of_le (hpos hc) (le_ofBeDigits_cons (by omega) ds)⟩
  rw [baseDigits?, if_neg (List.cons_ne_nil c cs), List.mapM_cons, hfilter, hds]
  rfl

theorem trim_eq_self {cs : List Char} (h : ∀ c ∈ cs, isSpace c = false) :
    trim (String.ofList cs) = String.ofList cs := by
  have hkeep : ∀ ds : List Char, (∀ c ∈ ds, isSpace c = false) → afterSpaces ds = ds := by
    intro ds hds
    cases ds with
    | nil => rfl
    | cons d ds =>
      have hhead : ¬isSpace d = true := by
        rw [hds d List.mem_cons_self]
        exact Bool.false_ne_true
      exact List.dropWhile_cons_of_neg hhead
  rw [trim, String.toList_ofList, hkeep cs h, hkeep _ fun c hc => h c (List.mem_reverse.mp hc),
    List.reverse_reverse]

/-- The number of a numeral of digits that does not start with zero. -/
theorem textNumber_digits {c : Char} {cs : List Char} (hc : c ≠ '0')
    (hdigits : ∀ d ∈ c :: cs, d.isDigit = true) :
    ∃ n : ℕ, textNumber (String.ofList (c :: cs)) = nearestDouble n ∧ 0 < n := by
  obtain ⟨n, hn, hpos⟩ := baseDigits?_of_isDigit hc hdigits
  refine ⟨n, ?_, hpos⟩
  have hdigit : c.isDigit = true := hdigits c List.mem_cons_self
  have hbased : basedNumeral? (c :: cs) = none := by
    rw [basedNumeral?]
    rintro d ds heq
    exact absurd (List.cons.inj heq).1 hc
  have hsign : readSign (c :: cs) = (false, c :: cs) := by
    rw [readSign]
    · rintro ds heq
      rw [(List.cons.inj heq).1] at hdigit
      exact absurd hdigit (by decide)
    · rintro ds heq
      rw [(List.cons.inj heq).1] at hdigit
      exact absurd hdigit (by decide)
  have hinfinity : c :: cs ≠ "Infinity".toList := by
    rintro heq
    have hhead : c = 'I' := (List.cons.inj heq).1
    rw [hhead] at hdigit
    exact absurd hdigit (by decide)
  have hdecimal : decimalNumeral? (c :: cs) = some (n : ℚ) := by
    have htake : (c :: cs).takeWhile Char.isDigit = c :: cs :=
      List.takeWhile_eq_self_iff.mpr hdigits
    have hdrop : (c :: cs).dropWhile Char.isDigit = [] := List.dropWhile_eq_nil_iff.mpr hdigits
    simp only [decimalNumeral?, htake, hdrop, List.append_nil, hn]
    simp [exponent?]
  rw [textNumber, trim_eq_self fun d hd => isSpace_of_isDigit (hdigits d hd), String.toList_ofList]
  simp only [if_neg (List.cons_ne_nil c cs), hbased, hsign, if_neg hinfinity, hdecimal]
  rfl

/-- A numeral of digits that does not start with zero denotes a positive number if it denotes a safe
integer. -/
theorem textNumber_digits_safe {c : Char} {cs : List Char} (hc : c ≠ '0')
    (hdigits : ∀ d ∈ c :: cs, d.isDigit = true)
    (hsafe : (textNumber (String.ofList (c :: cs))).isSafeInteger = true) :
    ∃ n : ℕ, textNumber (String.ofList (c :: cs)) = .ofNat n ∧ 0 < n ∧ n < 2 ^ 53 := by
  obtain ⟨n, hn, hpos⟩ := textNumber_digits hc hdigits
  rw [hn] at hsafe ⊢
  by_cases hlt : n < 2 ^ 53
  · exact ⟨n, nearestDouble_natCast hlt, hpos, hlt⟩
  · rw [not_isSafeInteger_nearestDouble (not_lt.mp hlt)] at hsafe
    exact absurd hsafe Bool.false_ne_true

/-! ## JSON values -/

namespace JsonValue

def isNull : JsonValue → Bool
  | null => true
  | _ => false

mutual

/-- A value has a text, unless an object in it hides the method `toString` with a field. -/
def hasText : JsonValue → Bool
  | array items => haveTexts items
  | object fields => !fields.any fun e => e.1 == "toString"
  | _ => true

def haveTexts : List JsonValue → Bool
  | [] => true
  | item :: items => hasText item && haveTexts items

end

/-- The number of the text of a value that stands in an array. The text of an array joins those of
its items with commas, and a text with a comma or of an object is no numeral. -/
def itemNumber : JsonValue → JsNumber
  | null => .ofNat 0
  | number text => textNumber (String.ofList text)
  | string value => textNumber value
  | array [] => .ofNat 0
  | array [item] => itemNumber item
  | _ => .nan

/-- `Number(value)`, or nothing where it throws. -/
def toNumber? (value : JsonValue) : Option JsNumber :=
  if value.hasText then
    match value with
    | bool b => some (.ofNat b.toNat)
    | _ => some value.itemNumber
  else none

/-- The value of a number. -/
def number? : JsonValue → Option JsNumber
  | number text => some (textNumber (String.ofList text))
  | _ => none

end JsonValue

end SmartAccountKit.Lib
