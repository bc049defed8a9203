import SmartAccountKit.Lib.Numeral

/-!
# Writing JSON texts

The text of a JSON value, as `JSON.stringify` writes it without spaces, and that
reading the text gives the value back.
-/

namespace SmartAccountKit.Lib

/-! ## Writing -/

/-- The text of a character in a string. -/
def quoteChar (c : Char) : List Char :=
  if c = '"' then ['\\', '"']
  else if c = '\\' then ['\\', '\\']
  else if c.toNat = 8 then ['\\', 'b']
  else if c.toNat = 9 then ['\\', 't']
  else if c.toNat = 10 then ['\\', 'n']
  else if c.toNat = 12 then ['\\', 'f']
  else if c.toNat = 13 then ['\\', 'r']
  else if c.toNat < 0x20 then '\\' :: 'u' :: '0' :: '0' :: hexByte (UInt8.ofNat c.toNat)
  else [c]

/-- The text of a string. -/
def quoteJson (s : String) : List Char := '"' :: (s.toList.flatMap quoteChar ++ ['"'])

mutual

/-- The text of a value. -/
def writeJson : JsonValue → List Char
  | .null => ['n', 'u', 'l', 'l']
  | .bool true => ['t', 'r', 'u', 'e']
  | .bool false => ['f', 'a', 'l', 's', 'e']
  | .number text => text
  | .string value => quoteJson value
  | .array items => '[' :: writeItems items
  | .object fields => '{' :: writeFields fields

/-- The items of an array and its closing bracket. -/
def writeItems : List JsonValue → List Char
  | [] => [']']
  | [item] => writeJson item ++ [']']
  | item :: items => writeJson item ++ ',' :: writeItems items

/-- The fields of an object and its closing brace. -/
def writeFields : List (String × JsonValue) → List Char
  | [] => ['}']
  | [(name, value)] => quoteJson name ++ ':' :: (writeJson value ++ ['}'])
  | (name, value) :: fields => quoteJson name ++ ':' :: (writeJson value ++ ',' :: writeFields fields)

end

/-- `JSON.stringify(value)`. -/
def stringifyJson (value : JsonValue) : String := String.ofList (writeJson value)

/-! ## Strings -/

theorem jsonHexValue_alphabet : ∀ d < 16, jsonHexValue (hexAlphabet.getD d '0') = some d := by
  decide

/-- The four digits of a control character denote it. -/
theorem readUnicodeEscape_hexByte {n : ℕ} (hn : n < 0x20) (rest : List Char) :
    readUnicodeEscape ('0' :: '0' :: (hexByte (UInt8.ofNat n) ++ rest)) =
      some (Char.ofNat n, rest) := by
  have hzero : jsonHexValue '0' = some 0 := by decide
  have hbyte : (UInt8.ofNat n).toNat = n := UInt8.toNat_ofNat_of_lt' (by show n < 256; omega)
  have hhigh := jsonHexValue_alphabet (n / 16) (by omega)
  have hlow := jsonHexValue_alphabet (n % 16) (by omega)
  have hunit : readCodeUnit ('0' :: '0' :: (hexByte (UInt8.ofNat n) ++ rest)) = some (n, rest) := by
    simp only [hexByte, hbyte, List.cons_append, List.nil_append, readCodeUnit, hzero, hhigh, hlow,
      Option.bind_eq_bind, Option.bind_some, Option.pure_def, Option.some.injEq, Prod.mk.injEq,
      and_true]
    omega
  have hsurrogate : ¬(0xd800 ≤ n ∧ n ≤ 0xdbff) := by omega
  have hlone : ¬(0xdc00 ≤ n ∧ n ≤ 0xdfff) := by omega
  rw [readUnicodeEscape, hunit]
  simp only [Option.bind_eq_bind, Option.bind_some, if_neg hsurrogate, if_neg hlone]

theorem eq_ofNat_of_toNat {c : Char} {n : ℕ} (h : c.toNat = n) : c = Char.ofNat n := by
  rw [← h, Char.ofNat_toNat]

/-- One character of a string is read back. -/
theorem readStringChars_quoteChar (fuel : ℕ) (c : Char) (rest : List Char) :
    readStringChars (fuel + 1) (quoteChar c ++ rest) =
      (readStringChars fuel rest).bind fun p => some (c :: p.1, p.2) := by
  unfold quoteChar
  split_ifs with hquote hslash h8 h9 h10 h12 h13 hcontrol
  · rw [hquote]
    rfl
  · rw [hslash]
    rfl
  · rw [eq_ofNat_of_toNat h8]
    rfl
  · rw [eq_ofNat_of_toNat h9]
    rfl
  · rw [eq_ofNat_of_toNat h10]
    rfl
  · rw [eq_ofNat_of_toNat h12]
    rfl
  · rw [eq_ofNat_of_toNat h13]
    rfl
  · have hread := readUnicodeEscape_hexByte hcontrol rest
    rw [Char.ofNat_toNat] at hread
    simp only [List.cons_append, readStringChars, hread, Option.bind_eq_bind, Option.bind_some,
      Option.pure_def]
  · -- a character that stands for itself
    have hplain : ¬(c = '\\' ∨ c.toNat < 0x20) := not_or.mpr ⟨hslash, hcontrol⟩
    rw [List.singleton_append, readStringChars, if_neg hplain]
    · rfl
    · rintro rfl
      exact absurd rfl hquote
    · rintro ds rfl
      exact absurd rfl hslash
    · rintro letter ds rfl
      exact absurd rfl hslash

theorem readStringChars_quote (cs rest : List Char) (fuel : ℕ) (h : cs.length < fuel) :
    readStringChars fuel (cs.flatMap quoteChar ++ '"' :: rest) = some (cs, rest) := by
  induction cs generalizing fuel with
  | nil =>
    obtain ⟨fuel, rfl⟩ := Nat.exists_eq_succ_of_ne_zero (Nat.ne_of_gt h)
    rfl
  | cons c cs ih =>
    obtain ⟨fuel, rfl⟩ := Nat.exists_eq_succ_of_ne_zero (show fuel ≠ 0 by omega)
    have hshorter : cs.length < fuel := by
      rw [List.length_cons] at h
      omega
    rw [List.flatMap_cons, List.append_assoc, Nat.succ_eq_add_one, readStringChars_quoteChar,
      ih fuel hshorter]
    rfl

theorem length_le_flatMap_quoteChar (cs : List Char) :
    cs.length ≤ (cs.flatMap quoteChar).length := by
  have hone : ∀ c : Char, 1 ≤ (quoteChar c).length := by
    intro c
    unfold quoteChar
    split_ifs <;> simp
  induction cs with
  | nil => exact Nat.zero_le _
  | cons c cs ih =>
    have hc := hone c
    rw [List.length_cons, List.flatMap_cons, List.length_append]
    omega

/-- A string is read back. -/
theorem readJsonString_quote (s : String) (rest : List Char) :
    readJsonString (s.toList.flatMap quoteChar ++ '"' :: rest) = some (s, rest) := by
  have hlength := length_le_flatMap_quoteChar s.toList
  have hfuel : s.toList.length < (s.toList.flatMap quoteChar ++ '"' :: rest).length + 1 := by
    rw [List.length_append]
    omega
  rw [readJsonString, readStringChars_quote _ _ _ hfuel]
  simp only [Option.bind_eq_bind, Option.bind_some, Option.pure_def, String.ofList_toList]

theorem quoteJson_append (s : String) (rest : List Char) :
    quoteJson s ++ rest = '"' :: (s.toList.flatMap quoteChar ++ '"' :: rest) := by
  rw [quoteJson, List.cons_append, List.append_assoc, List.singleton_append]

/-! ## Values -/

/-- A value whose numbers are numerals. -/
inductive JsonValue.WellFormed : JsonValue → Prop where
  | null : null.WellFormed
  | bool (value : Bool) : (bool value).WellFormed
  | number (n : Numeral) : (number n.text).WellFormed
  | string (value : String) : (string value).WellFormed
  | array {items : List JsonValue} (h : ∀ item ∈ items, item.WellFormed) : (array items).WellFormed
  | object {fields : List (String × JsonValue)} (h : ∀ e ∈ fields, e.2.WellFormed) :
    (object fields).WellFormed

/-- The first characters of a value. -/
def StartsValue (c : Char) : Prop :=
  isJsonSpace c = false ∧ c ≠ ']' ∧ c ≠ '}'

instance (c : Char) : Decidable (StartsValue c) := inferInstanceAs (Decidable (_ ∧ _ ∧ _))

theorem startsValue_of_isDigit {c : Char} (h : c.isDigit = true) : StartsValue c := by
  obtain ⟨d, hd, rfl⟩ := exists_of_isDigit h
  revert d
  decide

theorem exists_numeralText (n : Numeral) :
    ∃ c cs, n.text = c :: cs ∧ (c.isDigit = true ∨ c = '-') := by
  obtain ⟨c, cs, hcons, hc⟩ := n.exists_magnitudeText
  unfold Numeral.text
  split_ifs
  · exact ⟨'-', n.magnitudeText, rfl, Or.inr rfl⟩
  · exact ⟨c, cs, hcons, Or.inl hc⟩

/-- The text of a value starts with a character that is no space and closes nothing. -/
theorem exists_writeJson {v : JsonValue} (hv : v.WellFormed) :
    ∃ c cs, writeJson v = c :: cs ∧ StartsValue c := by
  cases hv with
  | null => exact ⟨_, _, rfl, by decide⟩
  | bool value =>
    cases value with
    | true => exact ⟨_, _, rfl, by decide⟩
    | false => exact ⟨_, _, rfl, by decide⟩
  | number n =>
    obtain ⟨c, cs, hcons, hc⟩ := exists_numeralText n
    refine ⟨c, cs, hcons, ?_⟩
    rcases hc with hdigit | rfl
    · exact startsValue_of_isDigit hdigit
    · decide
  | string value => exact ⟨_, _, rfl, by decide⟩
  | array h => exact ⟨_, _, rfl, by decide⟩
  | object h => exact ⟨_, _, rfl, by decide⟩

theorem skipJsonSpaces_cons {c : Char} (h : isJsonSpace c = false) (cs : List Char) :
    skipJsonSpaces (c :: cs) = c :: cs := by
  apply List.dropWhile_cons_of_neg
  rw [h]
  exact Bool.false_ne_true

theorem skipJsonSpaces_writeJson {v : JsonValue} (hv : v.WellFormed) (rest : List Char) :
    skipJsonSpaces (writeJson v ++ rest) = writeJson v ++ rest := by
  obtain ⟨c, cs, hcons, hc⟩ := exists_writeJson hv
  rw [hcons, List.cons_append, skipJsonSpaces_cons hc.1]

theorem endsNumber_cons {c : Char} (h : c = ',' ∨ c = ']' ∨ c = '}') (cs : List Char) :
    EndsNumber (c :: cs) := by
  intro d hd
  obtain rfl : c = d := Option.some.inj hd
  rcases h with rfl | rfl | rfl <;> decide

/-- Reading the text of a value gives the value, whatever follows it. -/
def ReadsBack (v : JsonValue) : Prop :=
  ∀ (fuel : ℕ) (rest : List Char), (writeJson v).length ≤ fuel → EndsNumber rest →
    readJsonValue fuel (writeJson v ++ rest) = some (v, rest)

/-- The items of an array start as the first of them does. -/
theorem exists_writeItems {item : JsonValue} (hitem : item.WellFormed) (items : List JsonValue) :
    ∃ c cs, writeItems (item :: items) = c :: cs ∧ StartsValue c := by
  obtain ⟨c, cs, hcons, hc⟩ := exists_writeJson hitem
  cases items with
  | nil => exact ⟨c, cs ++ [']'], by rw [writeItems, hcons, List.cons_append], hc⟩
  | cons next items =>
    refine ⟨c, cs ++ ',' :: writeItems (next :: items), ?_, hc⟩
    rw [writeItems, hcons, List.cons_append]
    exact fun h => absurd h (List.cons_ne_nil next items)

theorem exists_writeFields (field : String × JsonValue) (fields : List (String × JsonValue)) :
    ∃ cs, writeFields (field :: fields) = '"' :: cs := by
  obtain ⟨name, value⟩ := field
  cases fields with
  | nil => exact ⟨_, by rw [writeFields, quoteJson, List.cons_append]⟩
  | cons next fields =>
    refine ⟨name.toList.flatMap quoteChar ++ ['"'] ++
      ':' :: (writeJson value ++ ',' :: writeFields (next :: fields)), ?_⟩
    rw [writeFields, quoteJson, List.cons_append]
    exact fun h => absurd h (List.cons_ne_nil next fields)

theorem readJsonItems_writeItems {item : JsonValue} {items : List JsonValue}
    (hwell : ∀ v ∈ item :: items, v.WellFormed) (hback : ∀ v ∈ item :: items, ReadsBack v)
    {fuel : ℕ} {rest : List Char} (hfuel : (writeItems (item :: items)).length ≤ fuel) :
    readJsonItems fuel (writeItems (item :: items) ++ rest) = some (item :: items, rest) := by
  induction items generalizing item fuel with
  | nil =>
    have hlength : (writeJson item).length + 1 ≤ fuel := by
      rw [writeItems, List.length_append] at hfuel
      exact hfuel
    obtain ⟨fuel, rfl⟩ := Nat.exists_eq_succ_of_ne_zero (show fuel ≠ 0 by omega)
    have hitem := hback item List.mem_cons_self fuel (']' :: rest) (by omega)
      (endsNumber_cons (by decide) rest)
    rw [writeItems, List.append_assoc, List.singleton_append, readJsonItems, hitem]
    rfl
  | cons next items ih =>
    have hlength : (writeJson item).length + 1 + (writeItems (next :: items)).length ≤ fuel := by
      rw [writeItems, List.length_append, List.length_cons] at hfuel
      · omega
      · exact fun h => absurd h (List.cons_ne_nil next items)
    obtain ⟨fuel, rfl⟩ := Nat.exists_eq_succ_of_ne_zero (show fuel ≠ 0 by omega)
    have hitem := hback item List.mem_cons_self fuel
      (',' :: (writeItems (next :: items) ++ rest)) (by omega) (endsNumber_cons (by decide) _)
    have hitems := ih (fun v hv => hwell v (List.mem_cons_of_mem item hv))
      (fun v hv => hback v (List.mem_cons_of_mem item hv)) (show _ ≤ fuel by omega)
    have hspaces : skipJsonSpaces (writeItems (next :: items) ++ rest) =
        writeItems (next :: items) ++ rest := by
      obtain ⟨c, cs, hcons, hc⟩ :=
        exists_writeItems (hwell next (List.mem_cons_of_mem item List.mem_cons_self)) items
      rw [hcons, List.cons_append, skipJsonSpaces_cons hc.1]
    have hcomma : skipJsonSpaces (',' :: (writeItems (next :: items) ++ rest)) =
        ',' :: (writeItems (next :: items) ++ rest) := skipJsonSpaces_cons (by decide) _
    rw [writeItems, List.append_assoc, List.cons_append, readJsonItems, hitem]
    · simp only [Option.bind_eq_bind, Option.bind_some, hcomma, hspaces, hitems, Option.pure_def]
    · exact fun h => absurd h (List.cons_ne_nil next items)

theorem readJsonFields_writeFields {field : String × JsonValue}
    {fields : List (String × JsonValue)} (hwell : ∀ e ∈ field :: fields, e.2.WellFormed)
    (hback : ∀ e ∈ field :: fields, ReadsBack e.2) {fuel : ℕ} {rest : List Char}
    (hfuel : (writeFields (field :: fields)).length ≤ fuel) :
    readJsonFields fuel (writeFields (field :: fields) ++ rest) =
      some (field :: fields, rest) := by
  induction fields generalizing field fuel with
  | nil =>
    obtain ⟨name, value⟩ := field
    have hlength : (writeJson value).length + 1 ≤ fuel := by
      rw [writeFields, List.length_append, List.length_cons, List.length_append] at hfuel
      have hclose : ['}'].length = 1 := rfl
      omega
    obtain ⟨fuel, rfl⟩ := Nat.exists_eq_succ_of_ne_zero (show fuel ≠ 0 by omega)
    have hvalue := hback (name, value) List.mem_cons_self fuel ('}' :: rest)
      (show (writeJson value).length ≤ fuel by omega) (endsNumber_cons (by decide) rest)
    have hspaces := skipJsonSpaces_writeJson (hwell (name, value) List.mem_cons_self) ('}' :: rest)
    have hcolon : skipJsonSpaces (':' :: (writeJson value ++ '}' :: rest)) =
        ':' :: (writeJson value ++ '}' :: rest) := skipJsonSpaces_cons (by decide) _
    rw [writeFields, List.append_assoc, quoteJson_append, List.cons_append, List.append_assoc,
      List.singleton_append, readJsonFields, readJsonString_quote]
    simp only [Option.bind_eq_bind, Option.bind_some, hcolon, hspaces, hvalue]
    rfl
  | cons next fields ih =>
    obtain ⟨name, value⟩ := field
    have hlength : (writeJson value).length + 1 + (writeFields (next :: fields)).length ≤ fuel := by
      rw [writeFields, List.length_append, List.length_cons, List.length_append,
        List.length_cons] at hfuel
      · omega
      · exact fun h => absurd h (List.cons_ne_nil next fields)
    obtain ⟨fuel, rfl⟩ := Nat.exists_eq_succ_of_ne_zero (show fuel ≠ 0 by omega)
    have hvalue := hback (name, value) List.mem_cons_self fuel
      (',' :: (writeFields (next :: fields) ++ rest)) (show (writeJson value).length ≤ fuel by omega)
      (endsNumber_cons (by decide) _)
    have hfields := ih (fun e he => hwell e (List.mem_cons_of_mem _ he))
      (fun e he => hback e (List.mem_cons_of_mem _ he)) (show _ ≤ fuel by omega)
    have hspaces := skipJsonSpaces_writeJson (hwell (name, value) List.mem_cons_self)
      (',' :: (writeFields (next :: fields) ++ rest))
    have hcolon : skipJsonSpaces
        (':' :: (writeJson value ++ ',' :: (writeFields (next :: fields) ++ rest))) =
        ':' :: (writeJson value ++ ',' :: (writeFields (next :: fields) ++ rest)) :=
      skipJsonSpaces_cons (by decide) _
    have hcomma : skipJsonSpaces (',' :: (writeFields (next :: fields) ++ rest)) =
        ',' :: (writeFields (next :: fields) ++ rest) := skipJsonSpaces_cons (by decide) _
    have hquote : skipJsonSpaces (writeFields (next :: fields) ++ rest) =
        writeFields (next :: fields) ++ rest := by
      obtain ⟨cs, hcons⟩ := exists_writeFields next fields
      rw [hcons, List.cons_append, skipJsonSpaces_cons (by decide)]
    rw [writeFields, List.append_assoc, quoteJson_append, List.cons_append, List.append_assoc,
      List.cons_append, readJsonFields, readJsonString_quote]
    · simp only [Option.bind_eq_bind, Option.bind_some, hcolon, hspaces, hvalue, hcomma, hquote,
        hfields, Option.pure_def]
    · exact fun h => absurd h (List.cons_ne_nil next fields)

/-- A numeral does not start as another value does. -/
theorem readJsonValue_numeral (n : Numeral) (fuel : ℕ) {rest : List Char}
    (hrest : EndsNumber rest) :
    readJsonValue (fuel + 1) (n.text ++ rest) = some (.number n.text, rest) := by
  obtain ⟨c, cs, hcons, hc⟩ := exists_numeralText n
  have hothers : ∀ d ∈ ['{', '[', '"', 't', 'f', 'n'], ¬(d.isDigit = true ∨ d = '-') := by
    simp
  have hother : ∀ d ∈ ['{', '[', '"', 't', 'f', 'n'], c ≠ d := by
    intro d hd heq
    rw [heq] at hc
    exact hothers d hd hc
  have hread : readJsonValue (fuel + 1) (n.text ++ rest) = readJsonNumber (n.text ++ rest) := by
    rw [hcons, List.cons_append, readJsonValue]
    all_goals
      rintro ds heq
      exact absurd (List.cons.inj heq).1 (hother _ (by simp))
  rw [hread, n.readJsonNumber_text hrest]

/-- A text of a value is not empty, so reading it takes some fuel. -/
theorem readsBack_of_succ {v : JsonValue} (hv : v.WellFormed)
    (h : ∀ (fuel : ℕ) (rest : List Char), (writeJson v).length ≤ fuel + 1 → EndsNumber rest →
      readJsonValue (fuel + 1) (writeJson v ++ rest) = some (v, rest)) : ReadsBack v := by
  intro fuel rest hfuel hrest
  obtain ⟨c, cs, hcons, -⟩ := exists_writeJson hv
  have hpos : 0 < (writeJson v).length := by
    rw [hcons, List.length_cons]
    omega
  obtain ⟨fuel, rfl⟩ := Nat.exists_eq_succ_of_ne_zero (show fuel ≠ 0 by omega)
  exact h fuel rest hfuel hrest

/-- The text of a value is read back as the value. -/
theorem JsonValue.WellFormed.readsBack {v : JsonValue} (hv : v.WellFormed) : ReadsBack v := by
  induction hv with
  | null => exact readsBack_of_succ .null fun _ _ _ _ => rfl
  | bool value =>
    apply readsBack_of_succ (.bool value)
    intro fuel rest _ _
    cases value with
    | true => rfl
    | false => rfl
  | number n =>
    apply readsBack_of_succ (.number n)
    intro fuel rest _ hrest
    rw [writeJson]
    exact readJsonValue_numeral n fuel hrest
  | string value =>
    apply readsBack_of_succ (.string value)
    intro fuel rest _ _
    rw [writeJson, quoteJson_append, readJsonValue, readJsonString_quote]
    rfl
  | @array items h ih =>
    apply readsBack_of_succ (.array h)
    intro fuel rest hfuel _
    rw [writeJson, List.length_cons] at hfuel
    rw [writeJson, List.cons_append, readJsonValue]
    cases items with
    | nil => rfl
    | cons item items =>
      have hitems : readJsonItems fuel (writeItems (item :: items) ++ rest) =
          some (item :: items, rest) := readJsonItems_writeItems h ih (by omega)
      obtain ⟨c, cs, hcons, hc⟩ := exists_writeItems (h item List.mem_cons_self) items
      have hspaces : skipJsonSpaces (writeItems (item :: items) ++ rest) = c :: (cs ++ rest) := by
        rw [hcons, List.cons_append, skipJsonSpaces_cons hc.1]
      rw [hcons, List.cons_append] at hitems
      rw [hspaces]
      split
      · rename_i heq
        exact absurd (List.cons.inj heq).1 hc.2.1
      · rw [hitems]
        rfl
  | @object fields h ih =>
    apply readsBack_of_succ (.object h)
    intro fuel rest hfuel _
    rw [writeJson, List.length_cons] at hfuel
    rw [writeJson, List.cons_append, readJsonValue]
    cases fields with
    | nil => rfl
    | cons field fields =>
      have hfields : readJsonFields fuel (writeFields (field :: fields) ++ rest) =
          some (field :: fields, rest) := readJsonFields_writeFields h ih (by omega)
      obtain ⟨cs, hcons⟩ := exists_writeFields field fields
      have hspaces : skipJsonSpaces (writeFields (field :: fields) ++ rest) =
          '"' :: (cs ++ rest) := by
        rw [hcons, List.cons_append, skipJsonSpaces_cons (by decide)]
      rw [hcons, List.cons_append] at hfields
      rw [hspaces]
      split
      · rename_i heq
        exact absurd (List.cons.inj heq).1 (by decide)
      · rw [hfields]
        rfl

/-- `JSON.parse(JSON.stringify(value))`. -/
theorem parseJson_stringifyJson {v : JsonValue} (hv : v.WellFormed) :
    parseJson (stringifyJson v) = some v := by
  have hlength : (stringifyJson v).length = (writeJson v).length := by
    rw [stringifyJson, String.length_ofList]
  have hback := hv.readsBack ((writeJson v).length + 1) [] (Nat.le_succ _) endsNumber_nil
  have hspaces := skipJsonSpaces_writeJson hv []
  rw [List.append_nil] at hback hspaces
  rw [parseJson, hlength, stringifyJson, String.toList_ofList, hspaces, hback]
  rfl

end SmartAccountKit.Lib
