import SmartAccountKit.ContextRules
import SmartAccountKit.AuthDigest
import SmartAccountKit.Lib.HexText
import SmartAccountKit.Lib.Search
import SmartAccountKit.Lib.Utf16

/-!
# Texts of code hashes

`createCreateContractContext` and `assertUpgradeTarget` take a code hash as a text
or as bytes. The first checks the length of a text before it decodes it, and the
second after, and the decoding drops what follows the first bad pair of digits.
-/

namespace SmartAccountKit
open Lib

/-- A code hash as a caller gives it. -/
inductive WasmHashInput where
  | text (value : String)
  | buffer (value : Bytes)

/-! ## The parsers -/

/-- A text without the prefix `0x`. -/
def dropHexPrefix (text : String) : String :=
  ((afterWord "0x" text.toList).map String.ofList).getD text

/-- The bytes of the hash in a `CreateContract` rule type. -/
def createContractHash : WasmHashInput → Except JsError Bytes
  | .text wasmHash => do
    let cleanHash := dropHexPrefix wasmHash
    throwIf (utf16Length cleanHash ≠ 64) (JsError.validation
      "WASM hash must be 32 bytes (64 hex characters)" .INVALID_INPUT
      [("actualLength", .number (.ofNat (utf16Length cleanHash)))])
    return fromHex cleanHash
  | .buffer wasmHash => do
    throwIf (wasmHash.length ≠ 32) (JsError.validation "WASM hash must be 32 bytes" .INVALID_INPUT
      [("actualLength", .number (.ofNat wasmHash.length))])
    return wasmHash

/-- A `CreateContract` rule type. -/
def createCreateContractContext (wasmHash : WasmHashInput) : Except JsError ContextRuleType := do
  let hashBuffer ← createContractHash wasmHash
  return .createContract hashBuffer

/-- Decode the hash of the code a wallet is upgraded to, and check it. -/
def assertUpgradeTargetInput (policy : UpgradeTargetPolicy) :
    WasmHashInput → Except JsError Bytes
  | .text newWasmHash => assertUpgradeTarget policy (fromHex newWasmHash)
  | .buffer newWasmHash => assertUpgradeTarget policy newWasmHash

/-- A policy accepts a code hash and knows how its code is signed for. -/
def UpgradeTargetPolicy.Accepts (policy : UpgradeTargetPolicy) (wasmHash : String) : Prop :=
  wasmHash ∈ policy.acceptedWasmHashes ∧ (policy.authDigestSchemes.lookup wasmHash).isSome = true

/-! ## Exact parsing -/

/-- Sixty-four hexadecimal digits. -/
def IsHashDigits (cs : List Char) : Prop :=
  cs.length = 64 ∧ ∀ c ∈ cs, (hexValue c).isSome = true

/-- A text denotes a hash: its digits are those of the 32 bytes. -/
def DenotesHash (text : String) (wasmHash : Bytes) : Prop :=
  wasmHash.length = 32 ∧ toHex wasmHash = text.map Char.toLower

/-- `createCreateContractContext` accepts a text if and only if it is 64 digits after an optional
prefix, and gives the hash that they denote. -/
def ContextParsedExactly (wasmHash : String) : Prop :=
  ((∃ context, createCreateContractContext (.text wasmHash) = .ok context) ↔
    IsHashDigits (dropHexPrefix wasmHash).toList) ∧
  ∀ context, createCreateContractContext (.text wasmHash) = .ok context →
    ∃ hashBuffer, context = .createContract hashBuffer ∧
      DenotesHash (dropHexPrefix wasmHash) hashBuffer

/-- `assertUpgradeTarget` accepts a text if and only if it is 64 digits, and gives the hash that
they denote. -/
def UpgradeParsedExactly (policy : UpgradeTargetPolicy) (newWasmHash : String) : Prop :=
  ((∃ target, assertUpgradeTargetInput policy (.text newWasmHash) = .ok target) ↔
    IsHashDigits newWasmHash.toList) ∧
  ∀ target, assertUpgradeTargetInput policy (.text newWasmHash) = .ok target →
    DenotesHash newWasmHash target

/-- A text has the length of 64 digits, and a character of it is none. -/
def HasStrayCharacter (text : String) : Prop :=
  utf16Length text = 64 ∧ ∃ c ∈ text.toList, (hexValue c).isSome = false

/-- After 64 digits a text goes on, but not with a pair of digits. -/
def HasStrayEnd (text : String) : Prop :=
  ∃ digits rest, text.toList = digits ++ rest ∧ IsHashDigits digits ∧ rest ≠ [] ∧
    ¬StartsWithByte rest

theorem IsHashDigits.utf16Length_eq {text : String} (h : IsHashDigits text.toList) :
    utf16Length text = 64 := by
  rw [← h.1]
  apply utf16Length_eq_length
  intro c hc
  have hascii := ascii_of_hexValue (h.2 c hc)
  omega

/-- The bytes of 64 digits. -/
theorem IsHashDigits.denotes {text : String} (h : IsHashDigits text.toList) :
    DenotesHash text (fromHex text) := by
  have hlength : (hexPairs text.toList).length = 32 := by
    have happend := length_hexPairs_append (n := 32) h.1 h.2 []
    rw [List.append_nil] at happend
    exact happend
  refine ⟨hlength, ?_⟩
  obtain ⟨digits, rest, hsplit, hcount, -, hlower, -⟩ := exists_hexPairs_split text.toList
  -- all 64 characters are decoded, so nothing is left
  have hrest : rest = [] := by
    have htotal := congrArg List.length hsplit
    rw [h.1, List.length_append, hcount, hlength] at htotal
    exact List.length_eq_zero_iff.mp (by omega)
  rw [hrest, List.append_nil] at hsplit
  apply String.toList_injective
  rw [toHex, String.toList_ofList, fromHex, hlower, ← hsplit, String.toList_map]

theorem createCreateContractContext_eq_ok {wasmHash : String} {context : ContextRuleType} :
    createCreateContractContext (.text wasmHash) = .ok context ↔
      utf16Length (dropHexPrefix wasmHash) = 64 ∧
        context = .createContract (fromHex (dropHexPrefix wasmHash)) := by
  rw [createCreateContractContext, createContractHash, except_bind_eq_ok]
  constructor
  · rintro ⟨hashBuffer, hhash, hcontext⟩
    obtain ⟨hlength, hbuffer⟩ := throwIf_bind_eq_ok.mp hhash
    obtain rfl := Except.ok.inj hbuffer
    exact ⟨not_not.mp hlength, (Except.ok.inj hcontext).symm⟩
  · rintro ⟨hlength, rfl⟩
    exact ⟨_, throwIf_bind_eq_ok.mpr ⟨not_not.mpr hlength, rfl⟩, rfl⟩

theorem assertUpgradeTargetInput_eq_ok {policy : UpgradeTargetPolicy} {newWasmHash : String}
    {target : Bytes} (hpolicy : policy.Accepts (toHex (fromHex newWasmHash))) :
    assertUpgradeTargetInput policy (.text newWasmHash) = .ok target ↔
      (fromHex newWasmHash).length = 32 ∧ target = fromHex newWasmHash := by
  have hscheme : ¬(policy.authDigestSchemes.lookup (toHex (fromHex newWasmHash))).isNone = true := by
    rw [Option.isNone_iff_eq_none]
    intro hnone
    have hsome := hpolicy.2
    rw [hnone] at hsome
    exact absurd hsome Bool.false_ne_true
  rw [assertUpgradeTargetInput, assertUpgradeTarget, throwIf_bind_eq_ok, throwIf_bind_eq_ok,
    assertKnownAuthDigestScheme, toHex_map_toLower, throwIf_bind_eq_ok]
  constructor
  · rintro ⟨hlength, -, -, htarget⟩
    exact ⟨not_not.mp hlength, (Except.ok.inj htarget).symm⟩
  · rintro ⟨hlength, rfl⟩
    exact ⟨not_not.mpr hlength, not_not.mpr hpolicy.1, hscheme, rfl⟩

/-- A text is decoded to 32 bytes if and only if it starts with 64 digits that no pair follows. -/
theorem length_fromHex_eq_iff {text : String} :
    (fromHex text).length = 32 ↔ IsHashDigits text.toList ∨ HasStrayEnd text := by
  constructor
  · intro hlength
    obtain ⟨digits, rest, hsplit, hcount, hdigits, -, hend⟩ := exists_hexPairs_split text.toList
    have hhash : IsHashDigits digits := by
      refine ⟨?_, hdigits⟩
      rw [hcount]
      show 2 * (fromHex text).length = 64
      rw [hlength]
    by_cases hrest : rest = []
    · rw [hrest, List.append_nil] at hsplit
      rw [hsplit]
      exact Or.inl hhash
    · exact Or.inr ⟨digits, rest, hsplit, hhash, hrest, hend⟩
  · rintro (hhash | ⟨digits, rest, hsplit, hhash, -, hend⟩)
    · exact hhash.denotes.1
    · have happend := length_hexPairs_append (n := 32) hhash.1 hhash.2 rest
      rw [hexPairs_eq_nil.mpr hend, ← hsplit] at happend
      exact happend

theorem contextParsedExactly_iff {wasmHash : String} :
    ContextParsedExactly wasmHash ↔ ¬HasStrayCharacter (dropHexPrefix wasmHash) := by
  simp only [ContextParsedExactly, createCreateContractContext_eq_ok]
  constructor
  · rintro ⟨hiff, -⟩ ⟨hlength, c, hc, hstray⟩
    have hhash := hiff.mp ⟨_, hlength, rfl⟩
    rw [hhash.2 c hc] at hstray
    exact absurd hstray (by decide)
  · intro hstray
    -- a text of the right length has digits only
    have hhash : utf16Length (dropHexPrefix wasmHash) = 64 →
        IsHashDigits (dropHexPrefix wasmHash).toList := by
      intro hlength
      have hdigits : ∀ c ∈ (dropHexPrefix wasmHash).toList, (hexValue c).isSome = true := by
        intro c hc
        by_contra hnot
        exact hstray ⟨hlength, c, hc, eq_false_of_ne_true hnot⟩
      refine ⟨?_, hdigits⟩
      rw [← hlength]
      apply (utf16Length_eq_length _).symm
      intro c hc
      have hascii := ascii_of_hexValue (hdigits c hc)
      omega
    constructor
    · constructor
      · rintro ⟨_, hlength, -⟩
        exact hhash hlength
      · intro h
        exact ⟨_, h.utf16Length_eq, rfl⟩
    · rintro context ⟨hlength, rfl⟩
      exact ⟨_, rfl, (hhash hlength).denotes⟩

theorem upgradeParsedExactly_iff {policy : UpgradeTargetPolicy} {newWasmHash : String}
    (hpolicy : policy.Accepts (toHex (fromHex newWasmHash))) :
    UpgradeParsedExactly policy newWasmHash ↔ ¬HasStrayEnd newWasmHash := by
  simp only [UpgradeParsedExactly, assertUpgradeTargetInput_eq_ok hpolicy]
  constructor
  · rintro ⟨hiff, -⟩ hstray
    have hhash := hiff.mp ⟨_, length_fromHex_eq_iff.mpr (Or.inr hstray), rfl⟩
    obtain ⟨digits, rest, hsplit, hdigits, hrest, -⟩ := hstray
    have htotal := congrArg List.length hsplit
    have hpos := List.length_pos_iff.mpr hrest
    rw [List.length_append, hhash.1, hdigits.1] at htotal
    omega
  · intro hstray
    have hhash : (fromHex newWasmHash).length = 32 → IsHashDigits newWasmHash.toList :=
      fun hlength => (length_fromHex_eq_iff.mp hlength).resolve_right hstray
    constructor
    · constructor
      · rintro ⟨_, hlength, -⟩
        exact hhash hlength
      · intro h
        exact ⟨_, h.denotes.1, rfl⟩
    · rintro target ⟨hlength, rfl⟩
      exact (hhash hlength).denotes

/-- The texts of code hashes that are parsed exactly: by `createCreateContractContext` all but those
of the right length with another character than a digit, and by `assertUpgradeTarget` all but those
that go on after 64 digits with something other than a pair of digits. -/
theorem wasmHash_parsed_exactly_iff {policy : UpgradeTargetPolicy} {wasmHash : String}
    (hpolicy : policy.Accepts (toHex (fromHex wasmHash))) :
    (ContextParsedExactly wasmHash ↔ ¬HasStrayCharacter (dropHexPrefix wasmHash)) ∧
      (UpgradeParsedExactly policy wasmHash ↔ ¬HasStrayEnd wasmHash) :=
  ⟨contextParsedExactly_iff, upgradeParsedExactly_iff hpolicy⟩

/-- A policy that accepts the hash of zeros. -/
def sampleTargetPolicy : UpgradeTargetPolicy where
  acceptedWasmHashes := [toHex (List.replicate 32 0)]
  authDigestSchemes := [(toHex (List.replicate 32 0), .preimageV1)]

theorem wasmHash_parsed_exactly_sample :
    (ContextParsedExactly (toHex (List.replicate 32 0)) ↔
      ¬HasStrayCharacter (dropHexPrefix (toHex (List.replicate 32 0)))) ∧
    (UpgradeParsedExactly sampleTargetPolicy (toHex (List.replicate 32 0)) ↔
      ¬HasStrayEnd (toHex (List.replicate 32 0))) := by
  apply wasmHash_parsed_exactly_iff
  rw [fromHex_toHex]
  exact ⟨List.mem_singleton_self _, by decide⟩

/-- A rule type is made of 64 characters that are no digits, and an upgrade target of 64 digits and
a letter more. -/
theorem wasmHash_parsed_leniently :
    ¬((∀ wasmHash, ContextParsedExactly wasmHash) ∧
      ∀ policy newWasmHash, UpgradeTargetPolicy.Accepts policy (toHex (fromHex newWasmHash)) →
        UpgradeParsedExactly policy newWasmHash) := by
  rintro ⟨hcontext, -⟩
  have hexact := contextParsedExactly_iff.mp (hcontext (String.ofList (List.replicate 64 'z')))
  apply hexact
  have hbase : dropHexPrefix (String.ofList (List.replicate 64 'z')) =
      String.ofList (List.replicate 64 'z') := by decide
  rw [hbase]
  refine ⟨by decide, 'z', ?_, by decide⟩
  rw [String.toList_ofList]
  exact List.mem_replicate.mpr ⟨by decide, rfl⟩

end SmartAccountKit
