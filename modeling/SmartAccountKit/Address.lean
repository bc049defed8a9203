import SmartAccountKit.Errors
import SmartAccountKit.Lib.Text
import SmartAccountKit.Xdr.Values

/-!
# Address strings

The strkey text of an address: a version byte, the key data and a checksum in
base 32. A muxed contract has no text in the SDK.
-/

namespace SmartAccountKit
open Lib

/-! ## Strkeys -/

/-- Shift one bit into the CRC-16/XMODEM register. -/
def crc16Shift (crc : ℕ) : ℕ :=
  if crc < 0x8000 then crc * 2 else (crc * 2) % 0x10000 ^^^ 0x1021

/-- Read one byte into the register. -/
def crc16Byte (crc : ℕ) (b : UInt8) : ℕ :=
  crc16Shift (crc16Shift (crc16Shift (crc16Shift
    (crc16Shift (crc16Shift (crc16Shift (crc16Shift (crc ^^^ b.toNat * 256))))))))

/-- The CRC-16/XMODEM checksum, low byte first. -/
def crc16 (bs : Bytes) : Bytes :=
  (beBytes 2 (bs.foldl crc16Byte 0)).reverse

/-- The strkey of a version byte and key data. -/
def encodeCheck (version : UInt8) (payload : Bytes) : String :=
  encodeText base32Alphabet 5 (version :: payload ++ crc16 (version :: payload))

/-- The version byte and key data of a strkey, with an unchecked checksum. -/
def decodeUnchecked (s : String) : Option (UInt8 × Bytes) :=
  match decodeText base32Alphabet 5 s with
  | some (version :: data) => some (version, data.take (data.length - 2))
  | _ => none

@[simp] theorem length_crc16 (bs : Bytes) : (crc16 bs).length = 2 := by
  simp [crc16]

theorem decodeUnchecked_encodeCheck (version : UInt8) (payload : Bytes) :
    decodeUnchecked (encodeCheck version payload) = some (version, payload) := by
  have hdecode := decodeText_encodeText (w := 5) (by decide) (by decide) base32Alphabet_idxOf
    (version :: payload ++ crc16 (version :: payload))
  rw [decodeUnchecked, encodeCheck, hdecode]
  simp

/-! ## Addresses -/

/-- The version byte and key data of an address. -/
def ScAddress.strkeyParts : ScAddress → Option (UInt8 × Bytes)
  | account ed25519 => some (48, ed25519.1)
  | contract contractId => some (16, contractId.1)
  | muxedAccount id ed25519 => some (96, ed25519.1 ++ beBytes 8 id.toNat)
  | claimableBalance balanceId => some (8, 0 :: balanceId.1)
  | liquidityPool poolId => some (88, poolId.1)
  | muxedContract _ _ => none

/-- `Address.fromScAddress(address).toString()`, if the SDK can convert the address. -/
def ScAddress.toStrkey (a : ScAddress) : Option String :=
  a.strkeyParts.map fun p => encodeCheck p.1 p.2

/-- A byte string as one of a fixed length. -/
def toBytesN (n : ℕ) (bs : Bytes) : Option (BytesN n) :=
  if h : bs.length = n then some ⟨bs, h⟩ else none

@[simp] theorem toBytesN_val {n : ℕ} (bs : BytesN n) : toBytesN n bs.1 = some bs := by
  rw [toBytesN, dif_pos bs.2]

/-- The address a version byte and key data stand for. -/
def addressOfParts (version : UInt8) (payload : Bytes) : Option ScAddress :=
  if version = 48 then (toBytesN 32 payload).map .account
  else if version = 16 then (toBytesN 32 payload).map .contract
  else if version = 96 then
    (toBytesN 32 (payload.take 32)).map
      (.muxedAccount (UInt64.ofNat (ofBeBytes (payload.drop 32))))
  else if version = 8 then (toBytesN 32 (payload.drop 1)).map .claimableBalance
  else if version = 88 then (toBytesN 32 payload).map .liquidityPool
  else none

/-- `Address.fromString(text).toScAddress()`. A text that is not the strkey of the address it
decodes to is refused, as the SDK refuses a bad checksum or length. -/
def addressFromString (text : String) : Option ScAddress := do
  let (version, payload) ← decodeUnchecked text
  let address ← addressOfParts version payload
  if address.toStrkey = some text then some address else none

theorem addressOfParts_strkeyParts {a : ScAddress} {p : UInt8 × Bytes}
    (h : a.strkeyParts = some p) : addressOfParts p.1 p.2 = some a := by
  cases a with
  | muxedAccount id ed25519 =>
    have hid : ofBeBytes (beBytes 8 id.toNat) = id.toNat :=
      ofBeBytes_beBytes (lt_of_lt_of_eq id.toNat_lt (by norm_num))
    simp only [ScAddress.strkeyParts, Option.some.injEq] at h
    subst h
    have htake : (ed25519.1 ++ beBytes 8 id.toNat).take 32 = ed25519.1 := by
      rw [List.take_append_of_le_length (by rw [ed25519.2]), List.take_of_length_le (by rw [ed25519.2])]
    have hdrop : (ed25519.1 ++ beBytes 8 id.toNat).drop 32 = beBytes 8 id.toNat := by
      rw [List.drop_append_of_le_length (by rw [ed25519.2]), List.drop_of_length_le (by rw [ed25519.2]),
        List.nil_append]
    simp [addressOfParts, htake, hdrop, hid]
  | muxedContract => simp [ScAddress.strkeyParts] at h
  | _ =>
    simp only [ScAddress.strkeyParts, Option.some.injEq] at h
    subst h
    simp [addressOfParts]

/-- Reading an address string is the inverse of writing it. -/
theorem addressFromString_eq_some {text : String} {a : ScAddress} :
    addressFromString text = some a ↔ a.toStrkey = some text := by
  constructor
  · intro h
    simp only [addressFromString, Option.bind_eq_bind, Option.bind_eq_some_iff] at h
    obtain ⟨p, -, a', -, hcheck⟩ := h
    split_ifs at hcheck with hs
    rw [← Option.some.inj hcheck, hs]
  · intro h
    obtain ⟨p, hp, rfl⟩ := Option.map_eq_some_iff.mp h
    simp [addressFromString, decodeUnchecked_encodeCheck, addressOfParts_strkeyParts hp, h]

/-- Two addresses with one strkey are one address. -/
theorem ScAddress.toStrkey_inj {a b : ScAddress} {text : String} (ha : a.toStrkey = some text)
    (hb : b.toStrkey = some text) : a = b := by
  rw [← Option.some_inj, ← addressFromString_eq_some.mpr ha, ← addressFromString_eq_some.mpr hb]

/-- `StrKey.isValidEd25519PublicKey`. -/
def isValidEd25519PublicKey (text : String) : Bool :=
  match addressFromString text with
  | some (.account _) => true
  | _ => false

/-! ## Conversions that throw -/

/-- The name of an address type, as `switch().name` gives it. -/
def ScAddress.switchName : ScAddress → String
  | account _ => "scAddressTypeAccount"
  | contract _ => "scAddressTypeContract"
  | muxedAccount _ _ => "scAddressTypeMuxedAccount"
  | claimableBalance _ => "scAddressTypeClaimableBalance"
  | liquidityPool _ => "scAddressTypeLiquidityPool"
  | muxedContract _ _ => "scAddressTypeMuxedContract"

/-- The strkey of an address, or a validation error that names the field it stood in. -/
def scAddressToString (address : ScAddress) (field : String) : Except JsError String :=
  match address.toStrkey with
  | some text => .ok text
  | none =>
    .error (JsError.validation
      (field ++ " has an unsupported address type: " ++ address.switchName) .INVALID_INPUT
      [("field", .text field), ("addressType", .text address.switchName)])

/-- `Address.fromString(text).toScAddress()`. -/
def toScAddress (text : String) : Except JsError ScAddress :=
  match addressFromString text with
  | some address => .ok address
  | none => .error (JsError.plain ("Unsupported address type: " ++ text))

theorem scAddressToString_eq_ok {a : ScAddress} {field text : String} :
    scAddressToString a field = .ok text ↔ a.toStrkey = some text := by
  unfold scAddressToString
  cases h : a.toStrkey <;> simp

theorem toScAddress_eq_ok {text : String} {a : ScAddress} :
    toScAddress text = .ok a ↔ a.toStrkey = some text := by
  rw [← addressFromString_eq_some]
  unfold toScAddress
  cases h : addressFromString text <;> simp

/-! ## Sample addresses -/

/-- The contract address whose id is `n` in every byte. -/
def sampleContract (n : UInt8) : ScAddress := .contract ⟨List.replicate 32 n, by simp⟩

/-- The strkey of `sampleContract`. -/
def sampleContractId (n : UInt8) : String := encodeCheck 16 (List.replicate 32 n)

theorem sampleContract_toStrkey (n : UInt8) :
    (sampleContract n).toStrkey = some (sampleContractId n) := rfl

/-- The account address whose key is `n` in every byte. -/
def sampleAccount (n : UInt8) : ScAddress := .account ⟨List.replicate 32 n, by simp⟩

/-- The strkey of `sampleAccount`. -/
def sampleAccountId (n : UInt8) : String := encodeCheck 48 (List.replicate 32 n)

theorem sampleAccount_toStrkey (n : UInt8) :
    (sampleAccount n).toStrkey = some (sampleAccountId n) := rfl

end SmartAccountKit
