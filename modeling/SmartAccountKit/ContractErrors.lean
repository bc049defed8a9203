import SmartAccountKit.Errors
import SmartAccountKit.Lib.Lists
import SmartAccountKit.Lib.Search

/-!
# Contract errors

The errors that the deployed contracts report by code, and how a diagnostic text
is decoded into one.
-/

namespace SmartAccountKit
open Lib

/-- Every known contract error. -/
def CONTRACT_ERROR_REGISTRY : List ContractErrorInfo :=
  [⟨3000, "ContextRuleNotFound", .smartAccount, "The specified context rule does not exist."⟩,
   ⟨3002, "UnvalidatedContext", .smartAccount,
     "The provided context could not be validated against any rule."⟩,
   ⟨3003, "ExternalVerificationFailed", .smartAccount, "External signature verification failed."⟩,
   ⟨3004, "NoSignersAndPolicies", .smartAccount,
     "A context rule must retain at least one signer or policy."⟩,
   ⟨3005, "PastValidUntil", .smartAccount, "The valid_until ledger is already in the past."⟩,
   ⟨3006, "SignerNotFound", .smartAccount, "The specified signer was not found."⟩,
   ⟨3007, "DuplicateSigner", .smartAccount, "The signer already exists in the context rule."⟩,
   ⟨3008, "PolicyNotFound", .smartAccount, "The specified policy was not found."⟩,
   ⟨3009, "DuplicatePolicy", .smartAccount, "The policy already exists in the context rule."⟩,
   ⟨3010, "TooManySigners", .smartAccount, "The context rule exceeds the maximum of 15 signers."⟩,
   ⟨3011, "TooManyPolicies", .smartAccount, "The context rule exceeds the maximum of 5 policies."⟩,
   ⟨3012, "MathOverflow", .smartAccount, "An internal ID counter reached its maximum value."⟩,
   ⟨3013, "KeyDataTooLarge", .smartAccount,
     "The external signer key data exceeds the maximum of 256 bytes."⟩,
   ⟨3014, "ContextRuleIdsLengthMismatch", .smartAccount,
     "The number of context rule IDs does not match the number of auth contexts."⟩,
   ⟨3015, "NameTooLong", .smartAccount, "The context rule name exceeds the maximum of 20 bytes."⟩,
   ⟨3016, "UnauthorizedSigner", .smartAccount,
     "A provided signer is not part of any validated context rule."⟩,
   ⟨3017, "DelegatedSignerIsContextContract", .smartAccount,
     "A delegated signer is the contract of a context being authorized."⟩,
   ⟨3018, "SelfDelegatedSigner", .smartAccount,
     "A smart account cannot be its own delegated signer."⟩,
   ⟨3110, "SignaturePayloadInvalid", .webAuthn, "The signature payload was malformed."⟩,
   ⟨3111, "ClientDataTooLong", .webAuthn,
     "The WebAuthn clientDataJSON exceeded the 1024-byte limit."⟩,
   ⟨3112, "JsonParseError", .webAuthn, "The WebAuthn clientDataJSON could not be parsed."⟩,
   ⟨3113, "TypeFieldInvalid", .webAuthn, "The clientData `type` was not \"webauthn.get\"."⟩,
   ⟨3114, "ChallengeInvalid", .webAuthn, "The clientData challenge did not match the auth digest."⟩,
   ⟨3115, "AuthDataFormatInvalid", .webAuthn,
     "The authenticator data was shorter than the required 37 bytes."⟩,
   ⟨3116, "PresentBitNotSet", .webAuthn, "The authenticator User Present (UP) flag was not set."⟩,
   ⟨3117, "VerifiedBitNotSet", .webAuthn, "The authenticator User Verified (UV) flag was not set."⟩,
   ⟨3118, "BackupEligibilityAndStateNotSet", .webAuthn,
     "The authenticator backup eligibility/state flags were rejected."⟩,
   ⟨3119, "KeyDataInvalid", .webAuthn,
     "The external signer key data was not a valid secp256r1 public key."⟩,
   ⟨3200, "SmartAccountNotInstalled", .simpleThreshold,
     "The threshold policy is not installed for this smart account."⟩,
   ⟨3201, "InvalidThreshold", .simpleThreshold,
     "The threshold must be greater than zero and at most the signer count."⟩,
   ⟨3202, "NotAllowed", .simpleThreshold,
     "The caller is not allowed to perform this policy operation."⟩,
   ⟨3203, "AlreadyInstalled", .simpleThreshold,
     "The threshold policy is already installed for this smart account."⟩,
   ⟨3210, "SmartAccountNotInstalled", .weightedThreshold,
     "The weighted-threshold policy is not installed for this smart account."⟩,
   ⟨3211, "InvalidThreshold", .weightedThreshold,
     "The threshold must be greater than zero and at most the sum of signer weights."⟩,
   ⟨3212, "MathOverflow", .weightedThreshold, "Summing signer weights overflowed."⟩,
   ⟨3213, "NotAllowed", .weightedThreshold,
     "The caller is not allowed to perform this policy operation."⟩,
   ⟨3214, "AlreadyInstalled", .weightedThreshold,
     "The weighted-threshold policy is already installed for this smart account."⟩,
   ⟨3220, "SmartAccountNotInstalled", .spendingLimit,
     "The spending-limit policy is not installed for this smart account."⟩,
   ⟨3221, "SpendingLimitExceeded", .spendingLimit,
     "The transfer would exceed the spending limit for the current period."⟩,
   ⟨3222, "InvalidLimitOrPeriod", .spendingLimit,
     "The spending limit and period ledgers must both be greater than zero."⟩,
   ⟨3223, "NotAllowed", .spendingLimit,
     "The caller is not allowed to perform this policy operation."⟩,
   ⟨3224, "HistoryCapacityExceeded", .spendingLimit,
     "The spending history exceeded its maximum capacity."⟩,
   ⟨3225, "AlreadyInstalled", .spendingLimit,
     "The spending-limit policy is already installed for this smart account."⟩,
   ⟨3226, "LessThanZero", .spendingLimit, "The transfer amount was negative."⟩,
   ⟨3227, "OnlyCallContractAllowed", .spendingLimit,
     "The spending-limit policy only applies to CallContract context rules."⟩]

def contractErrorFromCode (code : ℕ) (context : List (String × ContextValue)) : Option JsError :=
  (CONTRACT_ERROR_REGISTRY.find? fun info => info.code == code).map fun info =>
    JsError.contractError info context

/-- `CONTRACT_ERROR_PATTERN` at the start of a text: the host's rendering of a contract error. -/
def contractErrorHere (cs : List Char) : Option ℕ := do
  let rest ← afterWord "Error(Contract," cs
  let rest ← afterWord "#" (afterSpaces rest)
  let (code, rest) ← readDigits rest
  let _ ← afterWord ")" rest
  return code

/-- Decode a diagnostic text. -/
def decodeContractError (diagnostic : String) : Option JsError := do
  let code ← firstMatch contractErrorHere diagnostic
  contractErrorFromCode code [("diagnostic", .text diagnostic)]

/-! ## Missing rules -/

/-- Whether a text contains `ContextRuleNotFound`, in any case. -/
def namesContextRuleNotFound (text : String) : Bool :=
  (firstMatch (afterWord "contextrulenotfound") (text.map Char.toLower)).isSome

/-- `Rule N not found` at the start of a text in lower case. -/
def ruleNotFoundHere (cs : List Char) : Option (List Char) := do
  let rest ← afterWord "rule " cs
  let (_, rest) ← readDigits rest
  afterWord " not found" rest

/-- Whether an error says that a context rule does not exist. -/
def isMissingContextRuleError (error : JsError) : Bool :=
  (error.contract.map ContractErrorInfo.code == some 3000) ||
    (((decodeContractError error.message).bind JsError.contract).map ContractErrorInfo.name ==
      some "ContextRuleNotFound") ||
    namesContextRuleNotFound error.message ||
    (firstMatch ruleNotFoundHere (error.message.map Char.toLower)).isSome

end SmartAccountKit
