import SmartAccountKit.Lib.JsonText

/-!
# What is read from a JSON text is shorter than the text

Every reader takes at least what it gives. A string takes its quotes too, so that
a text is never the string that it denotes, nor a field of the object that it
denotes.
-/

namespace SmartAccountKit.Lib

theorem length_skipJsonSpaces_le (cs : List Char) : (skipJsonSpaces cs).length ≤ cs.length :=
  List.length_dropWhile_le _ cs

/-! ## Strings -/

theorem length_readCodeUnit {cs rest : List Char} {unit : ℕ}
    (h : readCodeUnit cs = some (unit, rest)) : rest.length < cs.length := by
  unfold readCodeUnit at h
  split at h
  · simp only [Option.bind_eq_bind, Option.bind_eq_some_iff, Option.pure_def, Option.some.injEq,
      Prod.mk.injEq] at h
    obtain ⟨_, -, _, -, _, -, _, -, -, rfl⟩ := h
    simp only [List.length_cons]
    omega
  · exact absurd h.symm (Option.some_ne_none _)

theorem length_readUnicodeEscape {cs rest : List Char} {c : Char}
    (h : readUnicodeEscape cs = some (c, rest)) : rest.length < cs.length := by
  unfold readUnicodeEscape at h
  obtain ⟨⟨unit, after⟩, hunit, h⟩ := Option.bind_eq_some_iff.mp h
  have hafter := length_readCodeUnit hunit
  dsimp only at h
  split_ifs at h
  · split at h
    · split at h
      · rename_i more _ low rest' hlow
        have hlower := length_readCodeUnit hlow
        split_ifs at h
        · obtain ⟨-, rfl⟩ := Prod.mk.inj (Option.some.inj h)
          simp only [List.length_cons] at hafter
          omega
        · obtain ⟨-, rfl⟩ := Prod.mk.inj (Option.some.inj h)
          exact hafter
      · exact absurd h.symm (Option.some_ne_none _)
    · obtain ⟨-, rfl⟩ := Prod.mk.inj (Option.some.inj h)
      exact hafter
  · obtain ⟨-, rfl⟩ := Prod.mk.inj (Option.some.inj h)
    exact hafter
  · obtain ⟨-, rfl⟩ := Prod.mk.inj (Option.some.inj h)
    exact hafter

/-- The characters of a string and what follows them are fewer than the characters that they are
read from. -/
theorem length_readStringChars {fuel : ℕ} {cs chars rest : List Char}
    (h : readStringChars fuel cs = some (chars, rest)) :
    chars.length + rest.length < cs.length := by
  induction fuel, cs using readStringChars.induct generalizing chars rest with
  | case1 cs => exact absurd h.symm (Option.some_ne_none _)
  | case2 fuel rest' =>
    obtain ⟨rfl, rfl⟩ := Prod.mk.inj (Option.some.inj h)
    simp only [List.length_nil, List.length_cons]
    omega
  | case3 fuel rest' ih =>
    rw [readStringChars] at h
    obtain ⟨⟨c, after⟩, hescape, h⟩ := Option.bind_eq_some_iff.mp h
    obtain ⟨⟨tail, end'⟩, htail, h⟩ := Option.bind_eq_some_iff.mp h
    have hafter := length_readUnicodeEscape hescape
    have hrest := ih after htail
    obtain ⟨rfl, rfl⟩ := Prod.mk.inj (Option.some.inj h)
    simp only [List.length_cons]
    omega
  | case4 fuel letter rest' hletter ih =>
    rw [readStringChars] at h
    · obtain ⟨c, -, h⟩ := Option.bind_eq_some_iff.mp h
      obtain ⟨⟨tail, end'⟩, htail, h⟩ := Option.bind_eq_some_iff.mp h
      have hrest := ih htail
      obtain ⟨rfl, rfl⟩ := Prod.mk.inj (Option.some.inj h)
      simp only [List.length_cons]
      omega
    · exact hletter
  | case5 fuel c rest' _ _ _ hbad =>
    rw [readStringChars] at h
    · rw [if_pos hbad] at h
      exact absurd h.symm (Option.some_ne_none _)
    all_goals assumption
  | case6 fuel c rest' _ _ _ hgood ih =>
    rw [readStringChars] at h
    · rw [if_neg hgood] at h
      obtain ⟨⟨tail, end'⟩, htail, h⟩ := Option.bind_eq_some_iff.mp h
      have hrest := ih htail
      obtain ⟨rfl, rfl⟩ := Prod.mk.inj (Option.some.inj h)
      simp only [List.length_cons]
      omega
    all_goals assumption
  | case7 fuel => exact absurd h.symm (Option.some_ne_none _)

theorem length_readJsonString {cs rest : List Char} {s : String}
    (h : readJsonString cs = some (s, rest)) : s.toList.length + rest.length < cs.length := by
  obtain ⟨⟨chars, after⟩, hchars, h⟩ := Option.bind_eq_some_iff.mp h
  have hlength := length_readStringChars hchars
  obtain ⟨rfl, rfl⟩ := Prod.mk.inj (Option.some.inj h)
  rw [String.toList_ofList]
  exact hlength

/-! ## Numbers -/

theorem length_readJsonDigits {cs digits rest : List Char}
    (h : readJsonDigits cs = some (digits, rest)) : rest.length < cs.length := by
  unfold readJsonDigits at h
  dsimp only at h
  split_ifs at h with hnone
  obtain ⟨rfl, rfl⟩ := Prod.mk.inj (Option.some.inj h)
  have hsplit := congrArg List.length (List.takeWhile_append_dropWhile (p := Char.isDigit) (l := cs))
  have hpos := List.length_pos_of_ne_nil hnone
  rw [List.length_append] at hsplit
  omega

theorem length_readIntegerPart {cs digits rest : List Char}
    (h : readIntegerPart cs = some (digits, rest)) : rest.length < cs.length := by
  unfold readIntegerPart at h
  split at h
  · obtain ⟨-, rfl⟩ := Prod.mk.inj (Option.some.inj h)
    exact Nat.lt_succ_self _
  · exact length_readJsonDigits h

theorem length_readFraction {cs digits rest : List Char}
    (h : readFraction cs = some (digits, rest)) : rest.length ≤ cs.length := by
  unfold readFraction at h
  split at h
  · obtain ⟨⟨part, after⟩, hpart, h⟩ := Option.bind_eq_some_iff.mp h
    have hlength := length_readJsonDigits hpart
    obtain ⟨-, rfl⟩ := Prod.mk.inj (Option.some.inj h)
    simp only [List.length_cons]
    omega
  · obtain ⟨-, rfl⟩ := Prod.mk.inj (Option.some.inj h)
    exact le_rfl

theorem length_readExponent {cs digits rest : List Char}
    (h : readExponent cs = some (digits, rest)) : rest.length ≤ cs.length := by
  unfold readExponent at h
  split at h
  · split_ifs at h
    · split at h
      · split_ifs at h
        · obtain ⟨⟨part, after⟩, hpart, h⟩ := Option.bind_eq_some_iff.mp h
          have hlength := length_readJsonDigits hpart
          obtain ⟨-, rfl⟩ := Prod.mk.inj (Option.some.inj h)
          simp only [List.length_cons]
          omega
        · obtain ⟨⟨part, after⟩, hpart, h⟩ := Option.bind_eq_some_iff.mp h
          have hlength := length_readJsonDigits hpart
          obtain ⟨-, rfl⟩ := Prod.mk.inj (Option.some.inj h)
          simp only [List.length_cons] at hlength ⊢
          omega
      · exact absurd h.symm (Option.some_ne_none _)
    · obtain ⟨-, rfl⟩ := Prod.mk.inj (Option.some.inj h)
      exact le_rfl
  · obtain ⟨-, rfl⟩ := Prod.mk.inj (Option.some.inj h)
    exact le_rfl

theorem length_readJsonNumber {cs rest : List Char} {v : JsonValue}
    (h : readJsonNumber cs = some (v, rest)) :
    rest.length < cs.length ∧ ∃ text, v = .number text := by
  unfold readJsonNumber at h
  dsimp only at h
  split at h
  all_goals
    obtain ⟨⟨integer, rest₁⟩, h₁, h⟩ := Option.bind_eq_some_iff.mp h
    obtain ⟨⟨fraction, rest₂⟩, h₂, h⟩ := Option.bind_eq_some_iff.mp h
    obtain ⟨⟨exponent, rest₃⟩, h₃, h⟩ := Option.bind_eq_some_iff.mp h
    dsimp only at h₁ h₂ h₃
    have hlength₁ := length_readIntegerPart h₁
    have hlength₂ := length_readFraction h₂
    have hlength₃ := length_readExponent h₃
    obtain ⟨rfl, rfl⟩ := Prod.mk.inj (Option.some.inj h)
    refine ⟨?_, _, rfl⟩
    simp only [List.length_cons] at hlength₁ ⊢
    omega

/-! ## Values -/

/-- The strings of a value, as itself or as a field, have less than some number of characters. -/
structure ShortStrings (v : JsonValue) (n : ℕ) : Prop where
  string : ∀ s, v = .string s → s.toList.length < n
  field : ∀ fields, v = .object fields → ∀ e ∈ fields, ∀ s, e.2 = .string s → s.toList.length < n

theorem ShortStrings.mono {v : JsonValue} {m n : ℕ} (h : ShortStrings v m) (hmn : m ≤ n) :
    ShortStrings v n :=
  ⟨fun s hs => (h.string s hs).trans_le hmn,
    fun fields hfields e he s hs => (h.field fields hfields e he s hs).trans_le hmn⟩

theorem ShortStrings.of_field {v : JsonValue} {n : ℕ} (h : ShortStrings v n) {name s : String}
    (hfield : v.field name = some (.string s)) : s.toList.length < n := by
  unfold JsonValue.field at hfield
  split at hfield
  · rename_i fields
    obtain ⟨e, he, hvalue⟩ := Option.map_eq_some_iff.mp hfield
    have hmem := List.mem_reverse.mp (List.mem_of_find?_eq_some he)
    exact h.field fields rfl e hmem s hvalue
  · exact absurd hfield.symm (Option.some_ne_none _)

/-- What the readers of values, items and fields take, up to some fuel. -/
structure ReadsShorter (fuel : ℕ) : Prop where
  value : ∀ {cs rest : List Char} {v : JsonValue}, readJsonValue fuel cs = some (v, rest) →
    rest.length < cs.length ∧ ShortStrings v cs.length
  items : ∀ {cs rest : List Char} {items : List JsonValue},
    readJsonItems fuel cs = some (items, rest) → rest.length < cs.length
  fields : ∀ {cs rest : List Char} {fields : List (String × JsonValue)},
    readJsonFields fuel cs = some (fields, rest) →
      rest.length < cs.length ∧ ∀ e ∈ fields, ∀ s, e.2 = .string s → s.toList.length < cs.length

theorem shortStrings_of_other {v : JsonValue} {n : ℕ} (hstring : ∀ s, v ≠ .string s)
    (hobject : ∀ fields, v ≠ .object fields) : ShortStrings v n :=
  ⟨fun s hs => absurd hs (hstring s), fun fields hfields => absurd hfields (hobject fields)⟩

theorem ReadsShorter.succ_value {fuel : ℕ} (ih : ReadsShorter fuel) {cs rest : List Char}
    {v : JsonValue} (h : readJsonValue (fuel + 1) cs = some (v, rest)) :
    rest.length < cs.length ∧ ShortStrings v cs.length := by
  unfold readJsonValue at h
  split at h
  · exact absurd h.symm (Option.some_ne_none _)
  · -- an object
    rename_i after hfuel
    obtain rfl := Nat.succ.inj hfuel
    have hskip := length_skipJsonSpaces_le after
    split at h
    · rename_i rest' hempty
      obtain ⟨rfl, rfl⟩ := Prod.mk.inj (Option.some.inj h)
      rw [hempty, List.length_cons] at hskip
      refine ⟨by rw [List.length_cons]; omega, fun s hs => JsonValue.noConfusion hs, ?_⟩
      intro fields hfields e he
      rw [← JsonValue.object.inj hfields] at he
      exact absurd he List.not_mem_nil
    · obtain ⟨⟨fields, after'⟩, hfields, heq⟩ := Option.map_eq_some_iff.mp h
      obtain ⟨rfl, rfl⟩ := Prod.mk.inj heq
      have hread := ih.fields hfields
      refine ⟨by rw [List.length_cons]; omega, fun s hs => JsonValue.noConfusion hs, ?_⟩
      intro fields' hsame e he s hs
      rw [← JsonValue.object.inj hsame] at he
      have hshort := hread.2 e he s hs
      rw [List.length_cons]
      omega
  · -- an array
    rename_i after hfuel
    obtain rfl := Nat.succ.inj hfuel
    have hskip := length_skipJsonSpaces_le after
    split at h
    · rename_i rest' hempty
      obtain ⟨rfl, rfl⟩ := Prod.mk.inj (Option.some.inj h)
      rw [hempty, List.length_cons] at hskip
      exact ⟨by rw [List.length_cons]; omega, shortStrings_of_other (by simp) (by simp)⟩
    · obtain ⟨⟨items, after'⟩, hitems, heq⟩ := Option.map_eq_some_iff.mp h
      obtain ⟨rfl, rfl⟩ := Prod.mk.inj heq
      have hread := ih.items hitems
      exact ⟨by rw [List.length_cons]; omega, shortStrings_of_other (by simp) (by simp)⟩
  · -- a string
    obtain ⟨⟨s, after⟩, hs, heq⟩ := Option.map_eq_some_iff.mp h
    obtain ⟨rfl, rfl⟩ := Prod.mk.inj heq
    have hread := length_readJsonString hs
    refine ⟨by rw [List.length_cons]; omega, fun s' hs' => ?_, fun _ hv => JsonValue.noConfusion hv⟩
    rw [← JsonValue.string.inj hs', List.length_cons]
    omega
  · obtain ⟨rfl, rfl⟩ := Prod.mk.inj (Option.some.inj h)
    exact ⟨by simp only [List.length_cons]; omega, shortStrings_of_other (by simp) (by simp)⟩
  · obtain ⟨rfl, rfl⟩ := Prod.mk.inj (Option.some.inj h)
    exact ⟨by simp only [List.length_cons]; omega, shortStrings_of_other (by simp) (by simp)⟩
  · obtain ⟨rfl, rfl⟩ := Prod.mk.inj (Option.some.inj h)
    exact ⟨by simp only [List.length_cons]; omega, shortStrings_of_other (by simp) (by simp)⟩
  · obtain ⟨hlength, text, rfl⟩ := length_readJsonNumber h
    exact ⟨hlength, shortStrings_of_other (by simp) (by simp)⟩

theorem ReadsShorter.succ_items {fuel : ℕ} (ih : ReadsShorter fuel) {cs rest : List Char}
    {items : List JsonValue} (h : readJsonItems (fuel + 1) cs = some (items, rest)) :
    rest.length < cs.length := by
  unfold readJsonItems at h
  obtain ⟨⟨item, after⟩, hitem, h⟩ := Option.bind_eq_some_iff.mp h
  have hvalue := (ih.value hitem).1
  have hskip := length_skipJsonSpaces_le after
  dsimp only at h
  split at h
  · rename_i more heq
    obtain ⟨⟨items', after'⟩, hitems, h⟩ := Option.bind_eq_some_iff.mp h
    have hrest := ih.items hitems
    have hskip' := length_skipJsonSpaces_le more
    obtain ⟨-, rfl⟩ := Prod.mk.inj (Option.some.inj h)
    rw [heq, List.length_cons] at hskip
    dsimp only
    omega
  · rename_i more heq
    obtain ⟨-, rfl⟩ := Prod.mk.inj (Option.some.inj h)
    rw [heq, List.length_cons] at hskip
    omega
  · exact absurd h.symm (Option.some_ne_none _)

theorem ReadsShorter.succ_fields {fuel : ℕ} (ih : ReadsShorter fuel) {cs rest : List Char}
    {fields : List (String × JsonValue)} (h : readJsonFields (fuel + 1) cs = some (fields, rest)) :
    rest.length < cs.length ∧ ∀ e ∈ fields, ∀ s, e.2 = .string s → s.toList.length < cs.length := by
  unfold readJsonFields at h
  split at h
  · exact absurd h.symm (Option.some_ne_none _)
  · rename_i hfuel
    obtain rfl := Nat.succ.inj hfuel
    obtain ⟨⟨name, after⟩, hname, h⟩ := Option.bind_eq_some_iff.mp h
    have hlength := length_readJsonString hname
    have hskip := length_skipJsonSpaces_le after
    dsimp only at h
    split at h
    · rename_i after' heq
      obtain ⟨⟨value, after''⟩, hvalue, h⟩ := Option.bind_eq_some_iff.mp h
      have hread := ih.value hvalue
      have hskip' := length_skipJsonSpaces_le after'
      have hskip'' := length_skipJsonSpaces_le after''
      rw [heq, List.length_cons] at hskip
      dsimp only at h
      split at h
      · rename_i more hcomma
        obtain ⟨⟨fields', rest'⟩, hfields, h⟩ := Option.bind_eq_some_iff.mp h
        have hrest := ih.fields hfields
        have hmore := length_skipJsonSpaces_le more
        obtain ⟨rfl, rfl⟩ := Prod.mk.inj (Option.some.inj h)
        rw [hcomma, List.length_cons] at hskip''
        dsimp only
        refine ⟨by rw [List.length_cons]; omega, fun e he s hs => ?_⟩
        rcases List.mem_cons.mp he with rfl | he
        · have hshort := hread.2.string s hs
          rw [List.length_cons]
          omega
        · have hshort := hrest.2 e he s hs
          rw [List.length_cons]
          omega
      · rename_i more hbrace
        obtain ⟨rfl, rfl⟩ := Prod.mk.inj (Option.some.inj h)
        rw [hbrace, List.length_cons] at hskip''
        refine ⟨by rw [List.length_cons]; omega, fun e he s hs => ?_⟩
        have hsame := List.mem_singleton.mp he
        rw [hsame] at hs
        have hshort := hread.2.string s hs
        rw [List.length_cons]
        omega
      · exact absurd h.symm (Option.some_ne_none _)
    · exact absurd h.symm (Option.some_ne_none _)
  · exact absurd h.symm (Option.some_ne_none _)

theorem readsShorter (fuel : ℕ) : ReadsShorter fuel := by
  induction fuel with
  | zero =>
    refine ⟨fun h => ?_, fun h => ?_, fun h => ?_⟩
    · rw [readJsonValue] at h
      exact absurd h.symm (Option.some_ne_none _)
    · rw [readJsonItems] at h
      exact absurd h.symm (Option.some_ne_none _)
    · rw [readJsonFields] at h
      exact absurd h.symm (Option.some_ne_none _)
  | succ fuel ih => exact ⟨ih.succ_value, ih.succ_items, ih.succ_fields⟩

/-- A string in a parsed text, as itself or as a field of the object, is shorter than the text. -/
theorem shortStrings_parseJson {text : String} {v : JsonValue} (h : parseJson text = some v) :
    ShortStrings v text.toList.length := by
  unfold parseJson at h
  split at h
  · rename_i value rest hread
    split_ifs at h
    obtain rfl := Option.some.inj h
    exact ((readsShorter _).value hread).2.mono (length_skipJsonSpaces_le _)
  · exact absurd h.symm (Option.some_ne_none _)

end SmartAccountKit.Lib
