import SmartAccountKit.Lib.JsNumber

/-!
# Errors

The error classes of the kit that the modelled code throws, with their codes,
messages and contexts. A plain `Error` has no code.
-/

namespace SmartAccountKit
open Lib

/-- The error codes the modelled code uses. -/
inductive SmartAccountErrorCode where
  | INVALID_CONFIG
  | WALLET_NOT_CONNECTED
  | WALLET_CODE_NOT_ACCEPTED
  | WALLET_PROVENANCE_UNVERIFIED
  | WALLET_OWNERSHIP_UNVERIFIED
  | WALLET_AMBIGUOUS
  | AUTH_DIGEST_SCHEME_UNKNOWN
  | CREDENTIAL_DEPLOYMENT_FAILED
  | TRANSACTION_SIMULATION_FAILED
  | TRANSACTION_SIGNING_FAILED
  | TRANSACTION_SUBMISSION_FAILED
  | SIGNER_NOT_FOUND
  | INVALID_ADDRESS
  | INVALID_AMOUNT
  | INVALID_INPUT
  | CONTRACT_ERROR
deriving DecidableEq

/-- The classes of the errors the modelled code throws. -/
inductive ErrorClass where
  | error
  | smartAccountError
  | validationError
  | submissionError
  | simulationError
  | signerNotFoundError
  | walletNotConnectedError
  | walletCodeNotAcceptedError
  | walletProvenanceError
  | walletOwnershipError
  | walletAmbiguousError
  | authDigestSchemeError
  | contractError
deriving DecidableEq

/-- A value in an error's context. -/
inductive ContextValue where
  | text (value : String)
  | number (value : JsNumber)
  | texts (values : List String)
  | numbers (values : List JsNumber)
deriving DecidableEq

/-- The contract families with custom error codes. -/
inductive ContractErrorFamily where
  | smartAccount
  | webAuthn
  | simpleThreshold
  | weightedThreshold
  | spendingLimit
deriving DecidableEq

/-- The name of a family. -/
def ContractErrorFamily.name : ContractErrorFamily → String
  | smartAccount => "SmartAccount"
  | webAuthn => "WebAuthn"
  | simpleThreshold => "SimpleThreshold"
  | weightedThreshold => "WeightedThreshold"
  | spendingLimit => "SpendingLimit"

/-- A contract error code, with its enum variant name, its family and its message. -/
structure ContractErrorInfo where
  code : ℕ
  name : String
  family : ContractErrorFamily
  message : String
deriving DecidableEq

/-- A thrown error. A `ContractError` also carries the contract's code, name and family. -/
structure JsError where
  errorClass : ErrorClass
  message : String
  code : Option SmartAccountErrorCode := none
  context : List (String × ContextValue) := []
  contract : Option ContractErrorInfo := none
deriving DecidableEq

namespace JsError

/-- `new Error(message)`. -/
def plain (message : String) : JsError := { errorClass := .error, message }

/-- `new ValidationError(message, code, context)`. -/
def validation (message : String) (code : SmartAccountErrorCode := .INVALID_INPUT)
    (context : List (String × ContextValue) := []) : JsError :=
  { errorClass := .validationError, message, code := some code, context }

/-- `new SubmissionError(message)`. -/
def submission (message : String) : JsError :=
  { errorClass := .submissionError, message, code := some .TRANSACTION_SUBMISSION_FAILED }

/-- `new SubmissionError(message, hash)`. -/
def submissionWithHash (message hash : String) : JsError :=
  { submission message with context := [("hash", .text hash)] }

/-- `new SimulationError(message)`. -/
def simulation (message : String) : JsError :=
  { errorClass := .simulationError, message, code := some .TRANSACTION_SIMULATION_FAILED }

/-- `new SignerNotFoundError(identifier, hint)`. -/
def signerNotFound (identifier hint : String) : JsError :=
  { errorClass := .signerNotFoundError
    message := "No signer found for: " ++ identifier ++ ". " ++ hint
    code := some .SIGNER_NOT_FOUND
    context := [("identifier", .text identifier)] }

/-- `new WalletNotConnectedError(operation)`. -/
def walletNotConnected (operation : Option String) : JsError :=
  { errorClass := .walletNotConnectedError
    message := match operation with
      | some operation => "Wallet must be connected to " ++ operation
      | none => "Wallet not connected"
    code := some .WALLET_NOT_CONNECTED
    context := operation.toList.map fun operation => ("operation", .text operation) }

/-- `new WalletCodeNotAcceptedError(contractId, actual, accepted)`. -/
def walletCodeNotAccepted (contractId actual : String) (accepted : List String) : JsError :=
  { errorClass := .walletCodeNotAcceptedError
    message := "Smart account " ++ contractId ++ " runs unaccepted code (" ++ actual ++ "). " ++
      "If this is a legitimate upgrade, add its WASM hash to `acceptedWasmHashes`."
    code := some .WALLET_CODE_NOT_ACCEPTED
    context := [("contractId", .text contractId), ("actual", .text actual),
      ("accepted", .texts accepted)] }

/-- `new WalletProvenanceError(contractId, message, context)`. -/
def walletProvenance (contractId message : String)
    (context : List (String × ContextValue) := []) : JsError :=
  { errorClass := .walletProvenanceError
    message := "Wallet " ++ contractId ++ " has unverified birth provenance. " ++ message
    code := some .WALLET_PROVENANCE_UNVERIFIED
    context := ("contractId", .text contractId) :: context }

/-- `new WalletOwnershipError(message, context)`. -/
def walletOwnership (message : String) (context : List (String × ContextValue)) : JsError :=
  { errorClass := .walletOwnershipError
    message := message
    code := some .WALLET_OWNERSHIP_UNVERIFIED
    context := context }

/-- `new WalletAmbiguousError(contractIds)`. -/
def walletAmbiguous (contractIds : List String) : JsError :=
  { errorClass := .walletAmbiguousError
    message := "Multiple wallet candidates require an explicit contract selection"
    code := some .WALLET_AMBIGUOUS
    context := [("contractIds", .texts contractIds)] }

/-- `new ContractError(code, name, family, message, { context })`. -/
def contractError (info : ContractErrorInfo) (context : List (String × ContextValue)) : JsError :=
  { errorClass := .contractError
    message := info.message
    code := some .CONTRACT_ERROR
    context := [("contractCode", .number (.ofNat info.code)),
      ("contractErrorName", .text info.name), ("family", .text info.family.name)] ++ context
    contract := some info }

/-- `new AuthDigestSchemeError(contractId, actual)`. -/
def authDigestScheme (contractId actual : String) : JsError :=
  { errorClass := .authDigestSchemeError
    message := "Smart account " ++ contractId ++ " runs code (" ++ actual ++
      ") with an unknown authorization digest scheme. " ++
      "Map its WASM hash in `authDigestSchemes`."
    code := some .AUTH_DIGEST_SCHEME_UNKNOWN
    context := [("contractId", .text contractId), ("actual", .text actual)] }

/-- `wrapError`: an error of the kit is kept, any other becomes a `SmartAccountError`. -/
def wrap (err : JsError) (defaultCode : SmartAccountErrorCode) : JsError :=
  if err.errorClass = .error then
    { errorClass := .smartAccountError, message := err.message, code := some defaultCode }
  else err

end JsError

end SmartAccountKit
