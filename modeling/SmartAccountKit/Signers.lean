import SmartAccountKit.Address

/-!
# Contract signers

The identities that context rules list and authorization payloads are keyed by,
their equality and keys, and the checks a signer passes before it is added.
-/

namespace SmartAccountKit
open Lib

/-- A contract signer: a delegated account, or key data under a verifier contract. -/
inductive Signer where
  | delegated (address : String)
  | external (verifier : String) (keyData : Bytes)
deriving DecidableEq

def SECP256R1_PUBLIC_KEY_SIZE : ℕ := 65

def MAX_EXTERNAL_KEY_SIZE : ℕ := 256

/-- The public key derived from the seed of the shared default deployer. -/
def DEFAULT_DEPLOYER_PUBLIC_KEY : String :=
  "GAAH4OT36RRCCAGKARGPN2HLHT2NOBVFHO4GUHA6CF7UKQ4MMV24WQ4N"

def isDefaultDeployer (publicKey : String) : Bool :=
  publicKey == DEFAULT_DEPLOYER_PUBLIC_KEY

/-! ## Identity -/

/-- The credential id that follows the public key in a passkey signer's key data. -/
def getCredentialIdFromSigner : Signer → Option String
  | .delegated _ => none
  | .external _ keyData =>
    if keyData.length ≤ SECP256R1_PUBLIC_KEY_SIZE then none
    else some (toBase64Url (keyData.drop SECP256R1_PUBLIC_KEY_SIZE))

def signersEqual : Signer → Signer → Bool
  | .delegated a, .delegated b => a == b
  | .external aVerifier aKey, .external bVerifier bKey => aVerifier == bVerifier && aKey == bKey
  | _, _ => false

def getSignerKey : Signer → String
  | .delegated address => "delegated:" ++ address
  | .external verifier keyData => "external:" ++ verifier ++ ":" ++ toHex keyData

/-- The signers with distinct keys, each at its first occurrence. -/
def collectUniqueSigners (signers : List Signer) : List Signer :=
  signers.foldl (fun kept signer =>
    if kept.any fun k => getSignerKey k == getSignerKey signer then kept else kept ++ [signer]) []

@[simp] theorem signersEqual_iff {a b : Signer} : signersEqual a b = true ↔ a = b := by
  cases a <;> cases b <;> simp [signersEqual]

theorem signersEqual_eq_decide (a b : Signer) : signersEqual a b = decide (a = b) := by
  rw [Bool.eq_iff_iff, signersEqual_iff, decide_eq_true_iff]

/-! ## Checks -/

def validateExternalKeySize (keyData : Bytes) : Except JsError Unit :=
  if MAX_EXTERNAL_KEY_SIZE < keyData.length then
    .error (JsError.validation
      ("External signer key data must be at most " ++ toString MAX_EXTERNAL_KEY_SIZE ++
        " bytes (got " ++ toString keyData.length ++ ")") .INVALID_INPUT
      [("field", .text "keyData"), ("length", .number (.ofNat keyData.length)),
        ("maxBytes", .number (.ofNat MAX_EXTERNAL_KEY_SIZE))])
  else .ok ()

/-- Check a signer that is added to `account`. -/
def validateSigner (signer : Signer) (account : Option String) : Except JsError Unit :=
  match signer with
  | .delegated address =>
    if isDefaultDeployer address then
      .error (JsError.validation "The shared default deployer cannot be a delegated signer"
        .INVALID_INPUT [("field", .text "signer")])
    else if account = some address then
      .error (JsError.validation "A smart account cannot be its own delegated signer"
        .INVALID_INPUT [("field", .text "signer"), ("account", .text address)])
    else if !isValidEd25519PublicKey address then
      .error (JsError.validation
        ("A delegated signer must be a Stellar account (G-address). " ++
          "Delegating to a contract can let anyone authorize the account.")
        .INVALID_ADDRESS [("field", .text "signer"), ("address", .text address)])
    else .ok ()
  | .external _ keyData => validateExternalKeySize keyData

/-- What a signer must be to be added to a wallet: a delegated signer is a G-address other
than the shared deployer and the wallet itself, and key data has at most 256 bytes. -/
def SignerValid (account : Option String) : Signer → Prop
  | .delegated address =>
    isValidEd25519PublicKey address = true ∧ address ≠ DEFAULT_DEPLOYER_PUBLIC_KEY ∧
      account ≠ some address
  | .external _ keyData => keyData.length ≤ 256

theorem validateSigner_eq_ok {signer : Signer} {account : Option String} :
    validateSigner signer account = .ok () ↔ SignerValid account signer := by
  cases signer with
  | delegated address =>
    simp only [validateSigner, SignerValid, isDefaultDeployer, beq_iff_eq]
    split_ifs <;> simp_all
  | external verifier keyData =>
    simp only [validateSigner, SignerValid, validateExternalKeySize, MAX_EXTERNAL_KEY_SIZE]
    split_ifs <;> simp

/-- A signer with the key `n` in every byte, under a sample verifier. -/
def sampleSigner (n : UInt8) : Signer := .external (sampleContractId 11) (List.replicate 32 n)

end SmartAccountKit
