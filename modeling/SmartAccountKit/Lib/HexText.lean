import SmartAccountKit.Lib.Text

/-!
# Texts of hexadecimal digits

The digits of either case, and how far the lenient decoding of a text goes: up to
the first pair of characters that are not both digits.
-/

namespace SmartAccountKit.Lib

/-! ## Digits -/

/-- The character in lower case is a digit of the alphabet. -/
theorem toLower_mem_hexAlphabet {c : Char} (h : (hexValue c).isSome = true) :
    c.toLower ∈ hexAlphabet := by
  rw [hexValue] at h
  by_contra hmem
  rw [List.idxOf?_eq_none_iff.mpr hmem] at h
  exact absurd h Bool.false_ne_true

theorem hexAlphabet_digits {c : Char} (h : c ∈ hexAlphabet) :
    c.toNat < 128 ∧ c.toLower = c ∧ c ≠ 'x' := by
  have hall : (hexAlphabet.all fun d => d.toNat < 128 && d.toLower == d && d != 'x') = true := by
    decide
  have hc := List.all_eq_true.mp hall c h
  simpa [and_assoc] using hc

theorem ascii_of_hexValue {c : Char} (h : (hexValue c).isSome = true) : c.toNat < 128 := by
  have hlower := (hexAlphabet_digits (toLower_mem_hexAlphabet h)).1
  by_cases hupper : c.val ≥ 'A'.val ∧ c.val ≤ 'Z'.val
  · have hbound : c.toNat ≤ 90 := hupper.2
    omega
  · have hself : c.toLower = c := dif_neg hupper
    rwa [hself] at hlower

theorem mem_hexAlphabet_of_toHex {bs : Bytes} {c : Char} (hc : c ∈ (toHex bs).toList) :
    c ∈ hexAlphabet := by
  rw [toHex, String.toList_ofList] at hc
  obtain ⟨b, -, hbyte⟩ := List.mem_flatMap.mp hc
  have hb := b.toNat_lt
  have hdigit : ∀ d < 16, hexAlphabet.getD d '0' ∈ hexAlphabet := by decide
  simp only [hexByte, List.mem_cons, List.not_mem_nil, or_false] at hbyte
  rcases hbyte with rfl | rfl
  · exact hdigit _ (by omega)
  · exact hdigit _ (by omega)

/-- The digit of a value is the character in lower case. -/
theorem hexAlphabet_of_hexValue {c : Char} {d : ℕ} (h : hexValue c = some d) :
    d < 16 ∧ hexAlphabet.getD d '0' = c.toLower := by
  obtain ⟨hlt, hget, -⟩ := List.idxOf?_eq_some_iff.mp h
  refine ⟨hlt, ?_⟩
  rw [List.getD_eq_getElem?_getD, List.getElem?_eq_getElem hlt, hget]
  rfl

/-! ## Decoding -/

/-- A text starts with two digits. -/
def StartsWithByte (cs : List Char) : Prop :=
  ∃ hi lo rest, cs = hi :: lo :: rest ∧ (hexValue hi).isSome = true ∧ (hexValue lo).isSome = true

/-- Two digits are decoded to a byte, whatever follows them. -/
theorem exists_hexPairs_cons {hi lo : Char} (hhi : (hexValue hi).isSome = true)
    (hlo : (hexValue lo).isSome = true) :
    ∃ b, hexByte b = [hi.toLower, lo.toLower] ∧
      ∀ rest, hexPairs (hi :: lo :: rest) = b :: hexPairs rest := by
  obtain ⟨h, hh⟩ := Option.isSome_iff_exists.mp hhi
  obtain ⟨l, hl⟩ := Option.isSome_iff_exists.mp hlo
  have hhigh := hexAlphabet_of_hexValue hh
  have hlow := hexAlphabet_of_hexValue hl
  refine ⟨UInt8.ofNat (16 * h + l), ?_, ?_⟩
  · have hvalue : (UInt8.ofNat (16 * h + l)).toNat = 16 * h + l :=
      UInt8.toNat_ofNat_of_lt (show 16 * h + l < 2 ^ 8 by omega)
    have hdiv : (16 * h + l) / 16 = h := by omega
    have hmod : (16 * h + l) % 16 = l := by omega
    rw [hexByte, hvalue, hdiv, hmod, hhigh.2, hlow.2]
  · intro rest
    rw [hexPairs, hh, hl]

theorem hexPairs_eq_nil {cs : List Char} : hexPairs cs = [] ↔ ¬StartsWithByte cs := by
  constructor
  · rintro hnil ⟨hi, lo, rest, rfl, hhi, hlo⟩
    obtain ⟨b, -, hcons⟩ := exists_hexPairs_cons hhi hlo
    rw [hcons] at hnil
    exact absurd hnil (List.cons_ne_nil _ _)
  · intro hstart
    unfold hexPairs
    split
    · rename_i hi lo rest
      split
      · rename_i h l hh hl
        exact absurd ⟨hi, lo, rest, rfl, by rw [hh]; rfl, by rw [hl]; rfl⟩ hstart
      · rfl
    · rfl

/-- A text is decoded as far as it consists of pairs of digits. -/
theorem exists_hexPairs_split (cs : List Char) :
    ∃ digits rest, cs = digits ++ rest ∧ digits.length = 2 * (hexPairs cs).length ∧
      (∀ c ∈ digits, (hexValue c).isSome = true) ∧
      (hexPairs cs).flatMap hexByte = digits.map Char.toLower ∧ ¬StartsWithByte rest := by
  induction hbytes : hexPairs cs generalizing cs with
  | nil =>
    refine ⟨[], cs, rfl, rfl, ?_, rfl, hexPairs_eq_nil.mp hbytes⟩
    intro c hc
    exact absurd hc List.not_mem_nil
  | cons b bs ih =>
    have hstart : StartsWithByte cs := by
      by_contra hnot
      rw [hexPairs_eq_nil.mpr hnot] at hbytes
      exact absurd hbytes (List.cons_ne_nil _ _).symm
    obtain ⟨hi, lo, more, rfl, hhi, hlo⟩ := hstart
    obtain ⟨b', hbyte, hcons⟩ := exists_hexPairs_cons hhi hlo
    rw [hcons] at hbytes
    obtain ⟨rfl, hmore⟩ := List.cons.inj hbytes
    obtain ⟨digits, rest, rfl, hlength, hdigits, hlower, hend⟩ := ih more hmore
    refine ⟨hi :: lo :: digits, rest, rfl, ?_, ?_, ?_, hend⟩
    · simp only [List.length_cons]
      omega
    · intro c hc
      rcases List.mem_cons.mp hc with rfl | hc
      · exact hhi
      · rcases List.mem_cons.mp hc with rfl | hc
        · exact hlo
        · exact hdigits c hc
    · rw [List.flatMap_cons, hbyte, hlower]
      rfl

/-- Pairs of digits are decoded one by one, and then what follows them. -/
theorem length_hexPairs_append {n : ℕ} {digits : List Char} (hlength : digits.length = 2 * n)
    (hdigits : ∀ c ∈ digits, (hexValue c).isSome = true) (rest : List Char) :
    (hexPairs (digits ++ rest)).length = n + (hexPairs rest).length := by
  induction n generalizing digits with
  | zero =>
    obtain rfl := List.length_eq_zero_iff.mp hlength
    rw [List.nil_append, Nat.zero_add]
  | succ n ih =>
    obtain ⟨hi, more, rfl⟩ := List.exists_cons_of_length_eq_add_one hlength
    rw [List.length_cons] at hlength
    obtain ⟨lo, digits, rfl⟩ :=
      List.exists_cons_of_length_eq_add_one (show more.length = 2 * n + 1 by omega)
    rw [List.length_cons] at hlength
    have hhi := hdigits hi List.mem_cons_self
    have hlo := hdigits lo (List.mem_cons_of_mem _ List.mem_cons_self)
    obtain ⟨b, -, hcons⟩ := exists_hexPairs_cons hhi hlo
    have hrest := ih (show digits.length = 2 * n by omega) fun c hc =>
      hdigits c (List.mem_cons_of_mem _ (List.mem_cons_of_mem _ hc))
    rw [List.cons_append, List.cons_append, hcons, List.length_cons, hrest]
    omega

end SmartAccountKit.Lib
