import SmartAccountKit.Lib.Bytes

/-!
# Text encodings of byte strings

Hexadecimal text, and the text encodings that regroup a byte string into wider
or narrower digits written with an alphabet (base 32 and base 64).
-/

namespace SmartAccountKit.Lib

/-! ## Hexadecimal -/

/-- The lowercase digits of base 16. -/
def hexAlphabet : List Char := "0123456789abcdef".toList

/-- The two hexadecimal digits of a byte. -/
def hexByte (b : UInt8) : List Char :=
  [hexAlphabet.getD (b.toNat / 16) '0', hexAlphabet.getD (b.toNat % 16) '0']

/-- The lowercase hexadecimal text of a byte string. -/
def toHex (bs : Bytes) : String :=
  String.ofList (bs.flatMap hexByte)

/-- The value of a hexadecimal digit of either case. -/
def hexValue (c : Char) : Option ℕ :=
  hexAlphabet.idxOf? c.toLower

/-- Decode pairs of hexadecimal digits up to the first character that is not one. -/
def hexPairs : List Char → Bytes
  | hi :: lo :: cs =>
    match hexValue hi, hexValue lo with
    | some h, some l => UInt8.ofNat (16 * h + l) :: hexPairs cs
    | _, _ => []
  | _ => []

/-- Lenient hexadecimal decoding: what follows the first bad pair is dropped. -/
def fromHex (s : String) : Bytes :=
  hexPairs s.toList

theorem hexValue_alphabet : ∀ d < 16, hexValue (hexAlphabet.getD d '0') = some d := by
  decide

theorem hexPairs_flatMap_hexByte (bs : Bytes) : hexPairs (bs.flatMap hexByte) = bs := by
  induction bs with
  | nil => rfl
  | cons b bs ih =>
    have hb := b.toNat_lt
    rw [List.flatMap_cons, hexByte, List.cons_append, List.cons_append, List.nil_append, hexPairs,
      hexValue_alphabet _ (by omega), hexValue_alphabet _ (by omega), ih]
    simp only [Nat.div_add_mod, UInt8.ofNat_toNat]

/-- Decoding the hexadecimal text of a byte string gives the byte string. -/
theorem fromHex_toHex (bs : Bytes) : fromHex (toHex bs) = bs := by
  rw [fromHex, toHex, String.toList_ofList, hexPairs_flatMap_hexByte]

theorem toHex_inj {as bs : Bytes} (h : toHex as = toHex bs) : as = bs := by
  rw [← fromHex_toHex as, ← fromHex_toHex bs, h]

/-- Hexadecimal text is in lower case. -/
theorem toHex_map_toLower (bs : Bytes) : (toHex bs).map Char.toLower = toHex bs := by
  have hdigit : ∀ d < 16, (hexAlphabet.getD d '0').toLower = hexAlphabet.getD d '0' := by decide
  have hbyte : ∀ b : UInt8, (hexByte b).map Char.toLower = hexByte b := by
    intro b
    have hb := b.toNat_lt
    simp only [hexByte, List.map_cons, List.map_nil]
    rw [hdigit _ (by omega), hdigit _ (by omega)]
  apply String.toList_injective
  rw [String.toList_map, toHex, String.toList_ofList, List.map_flatMap]
  simp only [hbyte]

/-! ## Alphabets -/

/-- A byte string as text with `w` bits to a character and no padding characters. -/
def encodeText (alphabet : List Char) (w : ℕ) (bs : Bytes) : String :=
  String.ofList ((packGroups 8 w (bs.map UInt8.toNat)).map fun d => alphabet.getD d ' ')

/-- The byte string of a list of `w`-bit digits; bits that fill no byte are dropped. -/
def decodeDigits (w : ℕ) (es : List ℕ) : Bytes :=
  (unpackGroups 8 w es).map UInt8.ofNat

/-- The bytes a text denotes, when all its characters are in the alphabet. -/
def decodeText (alphabet : List Char) (w : ℕ) (s : String) : Option Bytes :=
  (s.toList.mapM fun c => alphabet.idxOf? c).map (decodeDigits w)

theorem decodeDigits_packGroups {w : ℕ} (hw : 0 < w) (hw8 : w ≤ 8) (bs : Bytes) :
    decodeDigits w (packGroups 8 w (bs.map UInt8.toNat)) = bs := by
  rw [decodeDigits, unpackGroups_packGroups hw hw8 (map_toNat_lt bs), map_ofNat_toNat]

/-- Reading each character's digit back through a faithful alphabet. -/
theorem mapM_idxOf_alphabet {alphabet : List Char} {n : ℕ}
    (ha : ∀ d < n, alphabet.idxOf? (alphabet.getD d ' ') = some d) {es : List ℕ}
    (h : ∀ e ∈ es, e < n) :
    (es.map fun d => alphabet.getD d ' ').mapM (fun c => alphabet.idxOf? c) = some es := by
  induction es with
  | nil => rfl
  | cons e es ih =>
    have hes := ih fun x hx => h x (by simp [hx])
    simp only [List.map_cons, List.mapM_cons, ha e (h e (by simp)), hes]
    rfl

/-- Decoding an encoded byte string gives it back. -/
theorem decodeText_encodeText {alphabet : List Char} {w : ℕ} (hw : 0 < w) (hw8 : w ≤ 8)
    (ha : ∀ d < 2 ^ w, alphabet.idxOf? (alphabet.getD d ' ') = some d) (bs : Bytes) :
    decodeText alphabet w (encodeText alphabet w bs) = some bs := by
  rw [decodeText, encodeText, String.toList_ofList, mapM_idxOf_alphabet ha (packGroups_lt 8 w _),
    Option.map_some, decodeDigits_packGroups hw hw8]

/-! ## Base 32 and base 64 -/

/-- The base-32 alphabet. -/
def base32Alphabet : List Char := "ABCDEFGHIJKLMNOPQRSTUVWXYZ234567".toList

/-- The URL-safe base-64 alphabet. -/
def base64UrlAlphabet : List Char :=
  "ABCDEFGHIJKLMNOPQRSTUVWXYZabcdefghijklmnopqrstuvwxyz0123456789-_".toList

theorem base32Alphabet_idxOf :
    ∀ d < 2 ^ 5, base32Alphabet.idxOf? (base32Alphabet.getD d ' ') = some d := by
  decide

/-- The base-64 digit of a character of the standard or the URL-safe alphabet. -/
def base64Value (c : Char) : Option ℕ :=
  if c = '+' then some 62 else if c = '/' then some 63 else base64UrlAlphabet.idxOf? c

/-- Lenient base-64 decoding: both alphabets are read and other characters are skipped. -/
def fromBase64 (s : String) : Bytes :=
  decodeDigits 6 (s.toList.filterMap base64Value)

/-- The unpadded URL-safe base-64 text of a byte string. -/
def toBase64Url (bs : Bytes) : String :=
  encodeText base64UrlAlphabet 6 bs

theorem base64Value_alphabet :
    ∀ d < 2 ^ 6, base64Value (base64UrlAlphabet.getD d ' ') = some d := by
  set_option maxRecDepth 20000 in decide

/-- Decoding the URL-safe text of a byte string gives the byte string. -/
theorem fromBase64_toBase64Url (bs : Bytes) : fromBase64 (toBase64Url bs) = bs := by
  have hread : ∀ es : List ℕ, (∀ e ∈ es, e < 2 ^ 6) →
      (es.map fun d => base64UrlAlphabet.getD d ' ').filterMap base64Value = es := by
    intro es
    induction es with
    | nil => intro _; rfl
    | cons e es ih =>
      intro h
      rw [List.map_cons, List.filterMap_cons, base64Value_alphabet e (h e (by simp)),
        ih fun x hx => h x (by simp [hx])]
  rw [fromBase64, toBase64Url, encodeText, String.toList_ofList, hread _ (packGroups_lt 8 6 _),
    decodeDigits_packGroups (by decide) (by decide)]

theorem toBase64Url_inj {as bs : Bytes} (h : toBase64Url as = toBase64Url bs) : as = bs := by
  rw [← fromBase64_toBase64Url as, ← fromBase64_toBase64Url bs, h]

end SmartAccountKit.Lib
