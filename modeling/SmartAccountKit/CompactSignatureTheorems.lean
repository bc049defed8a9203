import Mathlib.Data.Nat.Digits.Lemmas
import SmartAccountKit.CompactSignature

/-!
# Compact signatures are canonical

The DER form of a signature, the byte strings that are accepted, and the bytes
that are read of them. One signature and its negative have one compact form.
-/

namespace SmartAccountKit
open Lib

/-! ## The DER form -/

/-- An INTEGER with its content. -/
def derTagged (content : Bytes) : Bytes :=
  0x02 :: UInt8.ofNat content.length :: content

/-- A SEQUENCE in the short form, with its content. -/
def derSequence (content : Bytes) : Bytes :=
  0x30 :: UInt8.ofNat content.length :: content

/-- The content of the INTEGER of a positive number: as few bytes as possible, and a zero before
them where the first one would read as a sign. -/
def derContent (n : ℕ) : Bytes :=
  let digits := (Nat.digits 256 n).reverse.map UInt8.ofNat
  if 0x80 ≤ (digits.headD 0).toNat then 0 :: digits else digits

/-- The DER form of a signature. -/
def derSignature (r s : ℕ) : Bytes :=
  derSequence (derTagged (derContent r) ++ derTagged (derContent s))

theorem ofBeDigits_reverse (b : ℕ) (ds : List ℕ) : ofBeDigits b ds.reverse = Nat.ofDigits b ds := by
  induction ds with
  | nil => rfl
  | cons d ds ih =>
    rw [List.reverse_cons, ofBeDigits_append_singleton, ih, Nat.ofDigits_cons]
    ring

/-- A zero before the bytes of an integer changes nothing. -/
theorem ofBeBytes_zero_cons (bs : Bytes) : ofBeBytes (0 :: bs) = ofBeBytes bs := by
  show (bs.map UInt8.toNat).foldl (fun n d => n * 256 + d) (0 * 256 + 0) = _
  rfl

theorem ofBeBytes_derContent (n : ℕ) : ofBeBytes (derContent n) = n := by
  have hdigits : ofBeBytes ((Nat.digits 256 n).reverse.map UInt8.ofNat) = n := by
    have hlt : ∀ d ∈ (Nat.digits 256 n).reverse, d < 256 := by
      intro d hd
      exact Nat.digits_lt_base (by decide) (List.mem_reverse.mp hd)
    rw [ofBeBytes, map_toNat_ofNat hlt, ofBeDigits_reverse, Nat.ofDigits_digits]
  unfold derContent
  dsimp only
  split_ifs
  · rw [ofBeBytes_zero_cons, hdigits]
  · exact hdigits

theorem SECP256R1_ORDER_lt : SECP256R1_ORDER < 256 ^ 32 := by decide

/-- The content of a value modulo the order of the curve has 1 to 33 bytes. -/
theorem length_derContent {n : ℕ} (hpos : 1 ≤ n) (hlt : n < SECP256R1_ORDER) :
    1 ≤ (derContent n).length ∧ (derContent n).length ≤ 33 := by
  have hlow : 1 ≤ (Nat.digits 256 n).length :=
    List.length_pos_iff.mpr (Nat.digits_ne_nil_iff_ne_zero.mpr (by omega))
  have hhigh : (Nat.digits 256 n).length ≤ 32 := by
    rw [Nat.digits_length_le_iff (by decide)]
    exact hlt.trans SECP256R1_ORDER_lt
  unfold derContent
  dsimp only
  split_ifs
  · rw [List.length_cons, List.length_map, List.length_reverse]
    omega
  · rw [List.length_map, List.length_reverse]
    omega

/-! ## What is accepted -/

theorem getD_of_drop {α : Type} {xs rest : List α} {k : ℕ} {x : α} (h : xs.drop k = x :: rest)
    (d : α) : xs.getD k d = x := by
  have hfirst : (xs.drop k)[0]? = some x := by rw [h]; rfl
  rw [List.getElem?_drop, Nat.add_zero] at hfirst
  rw [List.getD_eq_getElem?_getD, hfirst, Option.getD_some]

theorem drop_succ_of_drop {α : Type} {xs rest : List α} {k : ℕ} {x : α}
    (h : xs.drop k = x :: rest) : xs.drop (k + 1) = rest := by
  rw [← List.drop_drop, h]
  rfl

theorem length_of_drop {α : Type} {xs rest : List α} {k : ℕ} {x : α} (h : xs.drop k = x :: rest) :
    xs.length = k + 1 + rest.length := by
  have hlength := congrArg List.length h
  rw [List.length_drop, List.length_cons] at hlength
  omega

section integer

variable {name : String} {der rest : Bytes} {offset : ℕ} {tag length : UInt8}
  {overrun : ℕ → Except JsError Unit}

/-- An integer that is read stands at its offset with its tag and its length. -/
theorem derInteger_eq_ok (hdrop : der.drop offset = tag :: length :: rest) {value stop : ℕ} :
    derInteger name der offset overrun = .ok (value, stop) ↔
      tag = 0x02 ∧ 1 ≤ length.toNat ∧ length.toNat ≤ 33 ∧
        overrun (offset + 2 + length.toNat) = .ok () ∧
        value = ofBeBytes (rest.take length.toNat) ∧ stop = offset + 2 + length.toNat := by
  have hsecond : der.drop (offset + 1) = length :: rest := drop_succ_of_drop hdrop
  have hrest : der.drop (offset + 2) = rest := drop_succ_of_drop hsecond
  unfold derInteger
  rw [getD_of_drop hdrop, getD_of_drop hsecond, hrest, throwIf_bind_eq_ok, not_not]
  dsimp only
  rw [throwIf_bind_eq_ok, except_bind_eq_ok]
  simp only [except_pure_eq_ok, Prod.mk.injEq]
  constructor
  · rintro ⟨htag, hlength, _, hoverrun, hvalue, hstop⟩
    exact ⟨htag, by omega, by omega, hoverrun, hvalue.symm, hstop.symm⟩
  · rintro ⟨htag, hlow, hhigh, hoverrun, hvalue, hstop⟩
    exact ⟨htag, by omega, (), hoverrun, hvalue.symm, hstop.symm⟩

end integer

theorem assertCurveRange_eq_ok {name : String} {value : ℕ} :
    assertCurveRange name value = .ok () ↔ 1 ≤ value ∧ value < SECP256R1_ORDER := by
  rw [assertCurveRange, throwIf_eq_ok]
  omega

/-- A byte string is one SEQUENCE of two INTEGERs, whose values are in the range of the curve. -/
structure IsDerSignature (der rContent sContent : Bytes) : Prop where
  sequence : der = derSequence (derTagged rContent ++ derTagged sContent)
  r_length : 1 ≤ rContent.length ∧ rContent.length ≤ 33
  s_length : 1 ≤ sContent.length ∧ sContent.length ≤ 33
  r_range : 1 ≤ ofBeBytes rContent ∧ ofBeBytes rContent < SECP256R1_ORDER
  s_range : 1 ≤ ofBeBytes sContent ∧ ofBeBytes sContent < SECP256R1_ORDER

/-- A byte that counts the bytes that follow. -/
theorem eq_ofNat_length {b : UInt8} {bs : Bytes} (h : b.toNat = bs.length) :
    b = UInt8.ofNat bs.length := by
  rw [← h, UInt8.ofNat_toNat]

/-- What is accepted is a DER signature, and the result holds its two values. -/
theorem isDerSignature_of_accepts {der compact : Bytes} (h : compactSignature der = .ok compact) :
    ∃ rContent sContent, IsDerSignature der rContent sContent ∧
      compact = beBytes 32 (ofBeBytes rContent) ++ beBytes 32 (lowS (ofBeBytes sContent)) := by
  unfold compactSignature at h
  simp only [throwIf_bind_eq_ok, not_not, not_lt] at h
  obtain ⟨hlength, htag, -, htotal, h⟩ := h
  obtain ⟨⟨r, sTagOffset⟩, hr, h⟩ := except_bind_eq_ok.mp h
  obtain ⟨⟨s, stop⟩, hs, h⟩ := except_bind_eq_ok.mp h
  obtain ⟨_, hrRange, h⟩ := except_bind_eq_ok.mp h
  obtain ⟨_, hsRange, h⟩ := except_bind_eq_ok.mp h
  rw [except_pure_eq_ok] at h
  -- the first four bytes, and those from the content of r on
  obtain ⟨b₀, b₁, b₂, b₃, rest, rfl⟩ : ∃ b₀ b₁ b₂ b₃ rest, der = b₀ :: b₁ :: b₂ :: b₃ :: rest := by
    rcases der with _ | ⟨b₀, _ | ⟨b₁, _ | ⟨b₂, _ | ⟨b₃, rest⟩⟩⟩⟩
    all_goals simp at hlength
    exact ⟨b₀, b₁, b₂, b₃, rest, rfl⟩
  have hdrop : (b₀ :: b₁ :: b₂ :: b₃ :: rest).drop 2 = b₂ :: b₃ :: rest := rfl
  obtain ⟨rfl, hrLow, hrHigh, hrOverrun, rfl, rfl⟩ := (derInteger_eq_ok hdrop).mp hr
  simp only [throwIf_eq_ok, List.length_cons, not_lt] at hrOverrun
  -- the content of r is followed by the tag and the length of s
  obtain ⟨c₀, c₁, sContent, hafter⟩ : ∃ c₀ c₁ sContent,
      rest.drop b₃.toNat = c₀ :: c₁ :: sContent := by
    rcases hafter : rest.drop b₃.toNat with _ | ⟨c₀, _ | ⟨c₁, sContent⟩⟩
    · have := List.drop_eq_nil_iff.mp hafter
      omega
    · have := length_of_drop hafter
      rw [List.length_nil] at this
      omega
    · exact ⟨c₀, c₁, sContent, rfl⟩
  have hdropS : (b₀ :: b₁ :: 0x02 :: b₃ :: rest).drop (2 + 2 + b₃.toNat) =
      c₀ :: c₁ :: sContent := by
    rw [← List.drop_drop]
    exact hafter
  have hrest := length_of_drop hafter
  obtain ⟨rfl, hsLow, hsHigh, hsOverrun, rfl, rfl⟩ := (derInteger_eq_ok hdropS).mp hs
  simp only [throwIf_eq_ok, List.length_cons, not_not] at hsOverrun
  simp only [List.length_cons] at hrest htotal
  have hsLength : c₁.toNat = sContent.length := by omega
  have hrLength : (rest.take b₃.toNat).length = b₃.toNat := by
    rw [List.length_take]
    omega
  rw [hsLength, List.take_length] at hsRange h
  refine ⟨rest.take b₃.toNat, sContent, ⟨?_, ?_, ?_, ?_, ?_⟩, h.symm⟩
  · have hbody : 0x02 :: b₃ :: rest =
        derTagged (rest.take b₃.toNat) ++ derTagged sContent := by
      rw [derTagged, derTagged, ← eq_ofNat_length hrLength.symm, ← eq_ofNat_length hsLength,
        List.cons_append, List.cons_append, ← hafter, List.take_append_drop]
    have hcount : b₁ = UInt8.ofNat (0x02 :: b₃ :: rest).length := by
      apply eq_ofNat_length
      show ((b₀ :: b₁ :: (0x02 : UInt8) :: b₃ :: rest).getD 1 0).toNat = _
      rw [htotal]
      simp only [List.length_cons]
      omega
    rw [derSequence, ← hbody, ← hcount]
    exact congrArg (· :: _) htag
  · omega
  · omega
  · exact assertCurveRange_eq_ok.mp hrRange
  · exact assertCurveRange_eq_ok.mp hsRange

/-- A DER signature with values in range is accepted. -/
theorem IsDerSignature.accepts {der rContent sContent : Bytes}
    (h : IsDerSignature der rContent sContent) :
    compactSignature der =
      .ok (beBytes 32 (ofBeBytes rContent) ++ beBytes 32 (lowS (ofBeBytes sContent))) := by
  have hr := h.r_length
  have hs := h.s_length
  have hrNat : (UInt8.ofNat rContent.length).toNat = rContent.length :=
    UInt8.toNat_ofNat_of_lt' (by show _ < 256; omega)
  have hsNat : (UInt8.ofNat sContent.length).toNat = sContent.length :=
    UInt8.toNat_ofNat_of_lt' (by show _ < 256; omega)
  set body := derTagged rContent ++ derTagged sContent with hbody
  have hbodyLength : body.length = 4 + rContent.length + sContent.length := by
    rw [hbody, List.length_append, derTagged, derTagged]
    simp only [List.length_cons]
    omega
  have hbodyNat : (UInt8.ofNat body.length).toNat = body.length :=
    UInt8.toNat_ofNat_of_lt' (by show _ < 256; omega)
  have hlength : der.length = body.length + 2 := by
    rw [h.sequence, derSequence]
    rfl
  have hdrop : der.drop 2 =
      0x02 :: UInt8.ofNat rContent.length :: (rContent ++ derTagged sContent) := by
    rw [h.sequence]
    rfl
  have hdropS : der.drop (2 + 2 + rContent.length) =
      0x02 :: UInt8.ofNat sContent.length :: sContent := by
    rw [← List.drop_drop, ← List.drop_drop, hdrop]
    exact List.drop_left
  have hfirst : der.getD 0 0 = 0x30 := by
    rw [h.sequence]
    rfl
  have hsecond : (der.getD 1 0).toNat = body.length := by
    rw [h.sequence]
    exact hbodyNat
  unfold compactSignature
  simp only [throwIf_bind_eq_ok, not_not, not_lt]
  refine ⟨by omega, hfirst, by omega, by omega, ?_⟩
  refine except_bind_eq_ok.mpr ⟨(ofBeBytes rContent, 2 + 2 + rContent.length), ?_, ?_⟩
  · refine (derInteger_eq_ok hdrop).mpr ⟨rfl, by omega, by omega, ?_, ?_, by rw [hrNat]⟩
    · rw [throwIf_eq_ok]
      omega
    · rw [hrNat, List.take_left]
  refine except_bind_eq_ok.mpr
    ⟨(ofBeBytes sContent, 2 + 2 + rContent.length + 2 + sContent.length), ?_, ?_⟩
  · refine (derInteger_eq_ok hdropS).mpr ⟨rfl, by omega, by omega, ?_, ?_, by rw [hsNat]⟩
    · rw [throwIf_eq_ok]
      omega
    · rw [hsNat, List.take_length]
  refine except_bind_eq_ok.mpr ⟨(), assertCurveRange_eq_ok.mpr h.r_range, ?_⟩
  exact except_bind_eq_ok.mpr ⟨(), assertCurveRange_eq_ok.mpr h.s_range, rfl⟩

/-! ## Reads -/

/-- What a function that reads a buffer ends with: a value or an error, and nothing at all where it
reads outside of the buffer. -/
abbrev BufferRead (α : Type) := ExceptT JsError Option α

/-- `buffer[offset]`. -/
def readByte (buffer : Bytes) (offset : ℕ) : BufferRead UInt8 :=
  ExceptT.mk (buffer[offset]?.map .ok)

/-- `buffer.subarray(start, stop)`. -/
def readSubarray (buffer : Bytes) (start stop : ℕ) : BufferRead Bytes :=
  ExceptT.mk (if start ≤ stop ∧ stop ≤ buffer.length then
    some (.ok ((buffer.drop start).take (stop - start))) else none)

/-- A check that reads nothing. -/
def checked {α : Type} (x : Except JsError α) : BufferRead α := ExceptT.mk (some x)

/-- `derInteger` with its reads. -/
def derIntegerReads (name : String) (der : Bytes) (offset : ℕ)
    (overrun : ℕ → Except JsError Unit) : BufferRead (ℕ × ℕ) := do
  let tag ← readByte der offset
  checked (throwIf (tag ≠ 0x02) (malformedSignature ("missing INTEGER tag for " ++ name)))
  let length ← readByte der (offset + 1)
  checked (throwIf (length.toNat < 1 ∨ 33 < length.toNat)
    (malformedSignature (name ++ " length is out of range")))
  let stop := offset + 2 + length.toNat
  checked (overrun stop)
  let content ← readSubarray der (offset + 2) stop
  return (ofBeBytes content, stop)

/-- `compactSignature` with its reads. -/
def compactSignatureReads (derSignature : Bytes) : BufferRead Bytes := do
  checked (throwIf (derSignature.length < 8) (malformedSignature "too short"))
  let tag ← readByte derSignature 0
  checked (throwIf (tag ≠ 0x30) (malformedSignature "missing SEQUENCE tag"))
  let totalLength ← readByte derSignature 1
  checked (throwIf (0x80 ≤ totalLength.toNat)
    (malformedSignature "long-form length is unsupported"))
  checked (throwIf (totalLength.toNat ≠ derSignature.length - 2)
    (malformedSignature "SEQUENCE length does not span the buffer"))
  let (r, sTagOffset) ← derIntegerReads "r" derSignature 2 fun stop =>
    throwIf (derSignature.length < stop + 2) (malformedSignature "r overruns the buffer")
  let (s, _) ← derIntegerReads "s" derSignature sTagOffset fun stop =>
    throwIf (stop ≠ derSignature.length) (malformedSignature "s does not end at the buffer end")
  checked (assertCurveRange "r" r)
  checked (assertCurveRange "s" s)
  return beBytes 32 r ++ beBytes 32 (lowS s)

/-- A function reads inside of its buffers only, and ends with `x`. -/
def ReadsInside {α : Type} (p : BufferRead α) (x : Except JsError α) : Prop := p.run = some x

section reads

variable {α β : Type} {buffer : Bytes} {offset start stop : ℕ}

theorem readsInside_checked (x : Except JsError α) : ReadsInside (checked x) x := rfl

theorem readsInside_pure (a : α) : ReadsInside (pure a) (pure a) := rfl

theorem ReadsInside.bind {p : BufferRead α} {x : Except JsError α} {f : α → BufferRead β}
    {g : α → Except JsError β} (hp : ReadsInside p x)
    (hf : ∀ a, x = .ok a → ReadsInside (f a) (g a)) : ReadsInside (p >>= f) (x >>= g) := by
  show (p >>= f).run = _
  rw [ExceptT.run_bind, show p.run = some x from hp]
  cases x with
  | error e => rfl
  | ok a => exact hf a rfl

/-- A byte that is read stands in the buffer. -/
theorem readsInside_readByte_bind {f : UInt8 → BufferRead β} {y : Except JsError β}
    (h : offset < buffer.length) (hf : ReadsInside (f (buffer.getD offset 0)) y) :
    ReadsInside (readByte buffer offset >>= f) y := by
  have hread : ReadsInside (readByte buffer offset) (.ok (buffer.getD offset 0)) := by
    show buffer[offset]?.map Except.ok = _
    rw [List.getD_eq_getElem?_getD, List.getElem?_eq_getElem h]
    rfl
  exact hread.bind (g := fun _ => y) fun a ha => by rwa [← Except.ok.inj ha]

theorem readsInside_readSubarray_bind {f : Bytes → BufferRead β} {y : Except JsError β}
    (hstart : start ≤ stop) (hstop : stop ≤ buffer.length)
    (hf : ReadsInside (f ((buffer.drop start).take (stop - start))) y) :
    ReadsInside (readSubarray buffer start stop >>= f) y := by
  have hread : ReadsInside (readSubarray buffer start stop)
      (.ok ((buffer.drop start).take (stop - start))) := by
    show (if start ≤ stop ∧ stop ≤ buffer.length then _ else _) = _
    rw [if_pos ⟨hstart, hstop⟩]
  exact hread.bind (g := fun _ => y) fun a ha => by rwa [← Except.ok.inj ha]

/-- An integer is read inside of the buffer where its tag and its length are, and where its end is
checked. -/
theorem readsInside_derInteger {name : String} {overrun : ℕ → Except JsError Unit}
    (hoffset : offset + 2 ≤ buffer.length)
    (hoverrun : ∀ stop, overrun stop = .ok () → stop ≤ buffer.length) :
    ReadsInside (derIntegerReads name buffer offset overrun)
      (derInteger name buffer offset overrun) := by
  apply readsInside_readByte_bind (by omega)
  apply (readsInside_checked _).bind
  intro _ _
  apply readsInside_readByte_bind (by omega)
  apply (readsInside_checked _).bind
  intro _ _
  apply (readsInside_checked _).bind
  intro _ hchecked
  have hcount : ∀ n : ℕ, offset + 2 + n - (offset + 2) = n := by omega
  apply readsInside_readSubarray_bind (by omega) (hoverrun _ hchecked)
  rw [hcount]
  exact readsInside_pure _

/-- A signature is only read inside of its buffer, whatever its bytes are. -/
theorem readsInside_compactSignature (der : Bytes) :
    ReadsInside (compactSignatureReads der) (compactSignature der) := by
  apply (readsInside_checked _).bind
  intro _ hlength
  rw [throwIf_eq_ok] at hlength
  apply readsInside_readByte_bind (by omega)
  apply (readsInside_checked _).bind
  intro _ _
  apply readsInside_readByte_bind (by omega)
  apply (readsInside_checked _).bind
  intro _ _
  apply (readsInside_checked _).bind
  intro _ _
  refine (readsInside_derInteger (by omega) ?_).bind ?_
  · intro stop hstop
    rw [throwIf_eq_ok] at hstop
    omega
  rintro ⟨r, sTagOffset⟩ hrOk
  -- the check of r leaves room for the tag and the length of s
  have hroom : sTagOffset + 2 ≤ der.length := by
    obtain ⟨_, -, hrOk⟩ := except_bind_eq_ok.mp hrOk
    obtain ⟨_, -, hrOk⟩ := except_bind_eq_ok.mp hrOk
    obtain ⟨_, hoverrun, hrOk⟩ := except_bind_eq_ok.mp hrOk
    rw [except_pure_eq_ok, Prod.mk.injEq] at hrOk
    rw [throwIf_eq_ok] at hoverrun
    omega
  refine (readsInside_derInteger hroom ?_).bind ?_
  · intro stop hstop
    rw [throwIf_eq_ok] at hstop
    omega
  rintro ⟨s, stop⟩ _
  apply (readsInside_checked _).bind
  intro _ _
  apply (readsInside_checked _).bind
  intro _ _
  exact readsInside_pure _

end reads

/-! ## The compact form -/

theorem lowS_eq_min {s : ℕ} (h : s < SECP256R1_ORDER) : lowS s = min s (SECP256R1_ORDER - s) := by
  unfold lowS
  split_ifs with hhigh <;> omega

/-- A number and its negative have the same smaller one. -/
theorem min_negative {s n : ℕ} (hs : 1 ≤ s ∧ s < n) :
    (1 ≤ n - s ∧ n - s < n) ∧ min (n - s) (n - (n - s)) = min s (n - s) := by
  omega

theorem isDerSignature_derSignature {r s : ℕ} (hr : 1 ≤ r ∧ r < SECP256R1_ORDER)
    (hs : 1 ≤ s ∧ s < SECP256R1_ORDER) :
    IsDerSignature (derSignature r s) (derContent r) (derContent s) where
  sequence := rfl
  r_length := length_derContent hr.1 hr.2
  s_length := length_derContent hs.1 hs.2
  r_range := by rwa [ofBeBytes_derContent]
  s_range := by rwa [ofBeBytes_derContent]

theorem compactSignature_derSignature {r s : ℕ} (hr : 1 ≤ r ∧ r < SECP256R1_ORDER)
    (hs : 1 ≤ s ∧ s < SECP256R1_ORDER) :
    compactSignature (derSignature r s) =
      .ok (beBytes 32 r ++ beBytes 32 (min s (SECP256R1_ORDER - s))) := by
  rw [(isDerSignature_derSignature hr hs).accepts, ofBeBytes_derContent, ofBeBytes_derContent,
    lowS_eq_min hs.2]

/-- The 64 bytes of two values in range, the second one in its lower half. -/
structure CompactForm (compact : Bytes) : Prop where
  length : compact.length = 64
  r_range : 1 ≤ ofBeBytes (compact.take 32) ∧ ofBeBytes (compact.take 32) < SECP256R1_ORDER
  s_range : 1 ≤ ofBeBytes (compact.drop 32) ∧
    ofBeBytes (compact.drop 32) ≤ (SECP256R1_ORDER - 1) / 2

theorem IsDerSignature.compactForm {der rContent sContent : Bytes}
    (h : IsDerSignature der rContent sContent) :
    CompactForm (beBytes 32 (ofBeBytes rContent) ++ beBytes 32 (lowS (ofBeBytes sContent))) := by
  have hodd : SECP256R1_ORDER = 2 * (SECP256R1_ORDER / 2) + 1 := by decide
  have hr := h.r_range
  have hs := h.s_range
  have hlow : 1 ≤ lowS (ofBeBytes sContent) ∧
      lowS (ofBeBytes sContent) ≤ (SECP256R1_ORDER - 1) / 2 := by
    rw [lowS_eq_min hs.2]
    omega
  have hbound := SECP256R1_ORDER_lt
  have hlength : (beBytes 32 (ofBeBytes rContent)).length = 32 := length_beBytes 32 _
  refine ⟨?_, ?_, ?_⟩
  · rw [List.length_append, length_beBytes, length_beBytes]
  · rw [List.take_left' hlength, ofBeBytes_beBytes (hr.2.trans hbound)]
    exact hr
  · rw [List.drop_left' hlength, ofBeBytes_beBytes (by omega)]
    exact hlow

/-- The DER form of a signature is shortened to `r` and the smaller of `s` and its negative. Of any
byte string, only bytes inside of it are read; one that is accepted is a SEQUENCE of two INTEGERs,
and gives a compact form. -/
theorem compactSignature_canonical {r s : ℕ} (hr : 1 ≤ r ∧ r < SECP256R1_ORDER)
    (hs : 1 ≤ s ∧ s < SECP256R1_ORDER) (der : Bytes) :
    compactSignature (derSignature r s) =
        .ok (beBytes 32 r ++ beBytes 32 (min s (SECP256R1_ORDER - s))) ∧
      compactSignature (derSignature r (SECP256R1_ORDER - s)) =
        compactSignature (derSignature r s) ∧
      ReadsInside (compactSignatureReads der) (compactSignature der) ∧
      ∀ compact, compactSignature der = .ok compact → CompactForm compact ∧
        ∃ rContent sContent, IsDerSignature der rContent sContent := by
  obtain ⟨hnegative, hsame⟩ := min_negative hs
  refine ⟨compactSignature_derSignature hr hs, ?_, readsInside_compactSignature der, ?_⟩
  · rw [compactSignature_derSignature hr hs, compactSignature_derSignature hr hnegative, hsame]
  · intro compact hcompact
    obtain ⟨rContent, sContent, hder, hform⟩ := isDerSignature_of_accepts hcompact
    rw [hform]
    exact ⟨hder.compactForm, rContent, sContent, hder⟩

/-- The compact form of a signature with the highest `s`. -/
theorem compactSignature_canonical_sample :
    compactSignature (derSignature 5 (SECP256R1_ORDER - 1)) = .ok (beBytes 32 5 ++ beBytes 32 1) ∧
      ∃ rContent sContent, IsDerSignature (derSignature 5 1) rContent sContent := by
  have hfive : 1 ≤ 5 ∧ 5 < SECP256R1_ORDER := by decide
  have hone : 1 ≤ 1 ∧ 1 < SECP256R1_ORDER := by decide
  obtain ⟨haccepts, hsame, -, hform⟩ := compactSignature_canonical hfive hone (derSignature 5 1)
  exact ⟨hsame.trans haccepts, (hform _ haccepts).2⟩

end SmartAccountKit
