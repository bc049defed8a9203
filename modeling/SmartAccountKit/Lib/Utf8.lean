import SmartAccountKit.Lib.Bytes

/-!
# UTF-8

Encoding of strings, and the lossy decoder that replaces each ill-formed
sequence by U+FFFD and so reads every byte string.
-/

namespace SmartAccountKit.Lib

/-- The UTF-8 bytes of a string. -/
def utf8Encode (s : String) : Bytes :=
  s.toList.flatMap String.utf8EncodeChar

/-- The replacement character. -/
def replacementChar : Char := Char.ofNat 0xFFFD

/-- The decoder between two bytes: how many continuation bytes are still needed, the code
point so far, and the range the next continuation byte must lie in. -/
structure Utf8State where
  needed : ℕ := 0
  codePoint : ℕ := 0
  lower : ℕ := 0x80
  upper : ℕ := 0xBF

/-- Read a byte that starts a sequence. -/
def utf8Start (b : ℕ) : List Char × Utf8State :=
  if b < 0x80 then ([Char.ofNat b], {})
  else if 0xC2 ≤ b ∧ b ≤ 0xDF then ([], { needed := 1, codePoint := b % 0x20 })
  else if 0xE0 ≤ b ∧ b ≤ 0xEF then
    ([], { needed := 2, codePoint := b % 0x10, lower := if b = 0xE0 then 0xA0 else 0x80,
           upper := if b = 0xED then 0x9F else 0xBF })
  else if 0xF0 ≤ b ∧ b ≤ 0xF4 then
    ([], { needed := 3, codePoint := b % 8, lower := if b = 0xF0 then 0x90 else 0x80,
           upper := if b = 0xF4 then 0x8F else 0xBF })
  else ([replacementChar], {})

/-- Read one byte. A byte that cannot continue the sequence ends it with a replacement
character and is read again as a start. -/
def utf8Step (st : Utf8State) (b : ℕ) : List Char × Utf8State :=
  if st.needed = 0 then utf8Start b
  else if st.lower ≤ b ∧ b ≤ st.upper then
    let codePoint := st.codePoint * 64 + b % 64
    if st.needed = 1 then ([Char.ofNat codePoint], {})
    else ([], { needed := st.needed - 1, codePoint := codePoint })
  else (replacementChar :: (utf8Start b).1, (utf8Start b).2)

/-- Decode from a decoder state to the end of the input. -/
def utf8Run (st : Utf8State) : Bytes → List Char
  | [] => if st.needed = 0 then [] else [replacementChar]
  | b :: bs => (utf8Step st b.toNat).1 ++ utf8Run (utf8Step st b.toNat).2 bs

/-- The string a byte string decodes to. -/
def utf8Decode (bs : Bytes) : String :=
  String.ofList (utf8Run {} bs)

example : utf8Decode [0xE2, 0x82, 0xAC, 0x41, 0xE2, 0x82, 0x41, 0xFF] =
    String.ofList [Char.ofNat 0x20AC, 'A', replacementChar, 'A', replacementChar] := by
  decide

/-! ## Decoding what was encoded -/

theorem utf8Run_cons (st : Utf8State) (b : UInt8) (bs : Bytes) :
    utf8Run st (b :: bs) = (utf8Step st b.toNat).1 ++ utf8Run (utf8Step st b.toNat).2 bs := rfl

theorem toNat_ofNat_byte {n : ℕ} (h : n < 256) : (UInt8.ofNat n).toNat = n := by
  rw [UInt8.toNat_ofNat']
  exact Nat.mod_eq_of_lt h

/-- Reading a start byte between two characters. -/
theorem utf8Run_start {n : ℕ} (hn : n < 256) (bs : Bytes) :
    utf8Run {} (UInt8.ofNat n :: bs) = (utf8Start n).1 ++ utf8Run (utf8Start n).2 bs := by
  rw [utf8Run_cons, toNat_ofNat_byte hn]
  rfl

/-- Reading the last continuation byte of a character, `m` being the six bits it carries. -/
theorem utf8Run_last {p lower upper m : ℕ} (hm : m < 64) (hlower : lower ≤ m + 0x80)
    (hupper : m + 0x80 ≤ upper) (bs : Bytes) :
    utf8Run { needed := 1, codePoint := p, lower, upper } (UInt8.ofNat (m + 0x80) :: bs) =
      Char.ofNat (p * 64 + m) :: utf8Run {} bs := by
  have hbits : (m + 0x80) % 64 = m := by omega
  rw [utf8Run_cons, toNat_ofNat_byte (by omega), utf8Step, if_neg (by simp),
    if_pos ⟨hlower, hupper⟩, hbits]
  rfl

/-- Reading a continuation byte that another one follows. -/
theorem utf8Run_more {n p lower upper m : ℕ} (hm : m < 64) (hlower : lower ≤ m + 0x80)
    (hupper : m + 0x80 ≤ upper) (bs : Bytes) :
    utf8Run { needed := n + 2, codePoint := p, lower, upper } (UInt8.ofNat (m + 0x80) :: bs) =
      utf8Run { needed := n + 1, codePoint := p * 64 + m } bs := by
  have hbits : (m + 0x80) % 64 = m := by omega
  rw [utf8Run_cons, toNat_ofNat_byte (by omega), utf8Step, if_neg (by simp),
    if_pos ⟨hlower, hupper⟩, hbits]
  rfl

/-- A character of one byte. -/
theorem utf8Run_one {v : ℕ} (hv : v ≤ 0x7f) (bs : Bytes) :
    utf8Run {} (UInt8.ofNat v :: bs) = Char.ofNat v :: utf8Run {} bs := by
  rw [utf8Run_start (by omega), utf8Start, if_pos (by omega)]
  rfl

/-- A character of two bytes. -/
theorem utf8Run_two {v : ℕ} (hlo : 0x7f < v) (hhi : v ≤ 0x7ff) (bs : Bytes) :
    utf8Run {} (UInt8.ofNat (v / 64 % 0x20 + 0xc0) :: UInt8.ofNat (v % 0x40 + 0x80) :: bs) =
      Char.ofNat v :: utf8Run {} bs := by
  have hstart : utf8Start (v / 64 % 0x20 + 0xc0) = ([], { needed := 1, codePoint := v / 64 }) := by
    have hbits : (v / 64 % 0x20 + 0xc0) % 0x20 = v / 64 := by omega
    rw [utf8Start, if_neg (by omega), if_pos (by omega), hbits]
  have hpoint : v / 64 * 64 + v % 0x40 = v := by omega
  rw [utf8Run_start (by omega), hstart, List.nil_append,
    utf8Run_last (by omega) (by omega) (by omega), hpoint]

/-- A character of three bytes. The range of the second byte keeps out surrogates and the
encodings that two bytes would have been enough for. -/
theorem utf8Run_three {v : ℕ} (hlo : 0x7ff < v) (hhi : v ≤ 0xffff)
    (hvalid : v < 0xD800 ∨ 0xDFFF < v) (bs : Bytes) :
    utf8Run {} (UInt8.ofNat (v / 4096 % 0x10 + 0xe0) :: UInt8.ofNat (v / 64 % 0x40 + 0x80) ::
      UInt8.ofNat (v % 0x40 + 0x80) :: bs) = Char.ofNat v :: utf8Run {} bs := by
  have hstart : utf8Start (v / 4096 % 0x10 + 0xe0) =
      ([], { needed := 2, codePoint := v / 4096,
             lower := if v / 4096 % 0x10 + 0xe0 = 0xE0 then 0xA0 else 0x80,
             upper := if v / 4096 % 0x10 + 0xe0 = 0xED then 0x9F else 0xBF }) := by
    have hbits : (v / 4096 % 0x10 + 0xe0) % 0x10 = v / 4096 := by omega
    rw [utf8Start, if_neg (by omega), if_neg (by omega), if_pos (by omega), hbits]
  have hpoint : (v / 4096 * 64 + v / 64 % 0x40) * 64 + v % 0x40 = v := by omega
  have hlower : (if v / 4096 % 0x10 + 0xe0 = 0xE0 then 0xA0 else 0x80) ≤ v / 64 % 0x40 + 0x80 := by
    split_ifs <;> omega
  have hupper : v / 64 % 0x40 + 0x80 ≤ (if v / 4096 % 0x10 + 0xe0 = 0xED then 0x9F else 0xBF) := by
    split_ifs <;> omega
  rw [utf8Run_start (by omega), hstart, List.nil_append,
    @utf8Run_more 0 _ _ _ _ (by omega) hlower hupper,
    utf8Run_last (by omega) (by omega) (by omega), hpoint]

/-- A character of four bytes. -/
theorem utf8Run_four {v : ℕ} (hlo : 0xffff < v) (hhi : v < 0x110000) (bs : Bytes) :
    utf8Run {} (UInt8.ofNat (v / 262144 % 0x08 + 0xf0) :: UInt8.ofNat (v / 4096 % 0x40 + 0x80) ::
      UInt8.ofNat (v / 64 % 0x40 + 0x80) :: UInt8.ofNat (v % 0x40 + 0x80) :: bs) =
      Char.ofNat v :: utf8Run {} bs := by
  have hstart : utf8Start (v / 262144 % 0x08 + 0xf0) =
      ([], { needed := 3, codePoint := v / 262144,
             lower := if v / 262144 % 0x08 + 0xf0 = 0xF0 then 0x90 else 0x80,
             upper := if v / 262144 % 0x08 + 0xf0 = 0xF4 then 0x8F else 0xBF }) := by
    have hbits : (v / 262144 % 0x08 + 0xf0) % 8 = v / 262144 := by omega
    rw [utf8Start, if_neg (by omega), if_neg (by omega), if_neg (by omega), if_pos (by omega),
      hbits]
  have hpoint : ((v / 262144 * 64 + v / 4096 % 0x40) * 64 + v / 64 % 0x40) * 64 + v % 0x40 = v := by
    omega
  have hlower : (if v / 262144 % 0x08 + 0xf0 = 0xF0 then 0x90 else 0x80) ≤
      v / 4096 % 0x40 + 0x80 := by
    split_ifs <;> omega
  have hupper : v / 4096 % 0x40 + 0x80 ≤
      (if v / 262144 % 0x08 + 0xf0 = 0xF4 then 0x8F else 0xBF) := by
    split_ifs <;> omega
  rw [utf8Run_start (by omega), hstart, List.nil_append,
    @utf8Run_more 1 _ _ _ _ (by omega) hlower hupper,
    @utf8Run_more 0 _ _ _ _ (by omega) (by omega) (by omega),
    utf8Run_last (by omega) (by omega) (by omega), hpoint]

/-- The bytes of a character are read back as that character. -/
theorem utf8Run_encodeChar (c : Char) (bs : Bytes) :
    utf8Run {} (String.utf8EncodeChar c ++ bs) = c :: utf8Run {} bs := by
  have hc : Char.ofNat c.val.toNat = c := Char.ofNat_toNat c
  have hvalid : c.val.toNat < 0xD800 ∨ 0xDFFF < c.val.toNat ∧ c.val.toNat < 0x110000 := c.valid
  unfold String.utf8EncodeChar
  generalize c.val.toNat = v at hc hvalid
  rw [← hc]
  by_cases h1 : v ≤ 0x7f
  · simp only [if_pos h1, List.cons_append, List.nil_append]
    exact utf8Run_one h1 bs
  by_cases h2 : v ≤ 0x7ff
  · simp only [if_neg h1, if_pos h2, List.cons_append, List.nil_append]
    exact utf8Run_two (by omega) h2 bs
  by_cases h3 : v ≤ 0xffff
  · simp only [if_neg h1, if_neg h2, if_pos h3, List.cons_append, List.nil_append]
    exact utf8Run_three (by omega) h3 (by omega) bs
  · simp only [if_neg h1, if_neg h2, if_neg h3, List.cons_append, List.nil_append]
    exact utf8Run_four (by omega) (by omega) bs

/-- Decoding gives back the string that was encoded. -/
theorem utf8Decode_utf8Encode (s : String) : utf8Decode (utf8Encode s) = s := by
  have hrun : ∀ cs : List Char, utf8Run {} (cs.flatMap String.utf8EncodeChar) = cs := by
    intro cs
    induction cs with
    | nil => rfl
    | cons c cs ih => rw [List.flatMap_cons, utf8Run_encodeChar, ih]
  rw [utf8Decode, utf8Encode, hrun, String.ofList_toList]

/-- A byte string is the UTF-8 of some text. -/
def Utf8Valid (bs : Bytes) : Prop := ∃ s, utf8Encode s = bs

theorem utf8Encode_utf8Decode {bs : Bytes} (h : Utf8Valid bs) :
    utf8Encode (utf8Decode bs) = bs := by
  obtain ⟨s, rfl⟩ := h
  rw [utf8Decode_utf8Encode]

end SmartAccountKit.Lib
