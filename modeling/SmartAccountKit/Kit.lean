import SmartAccountKit.Requests

/-!
# The kit

The configuration and the connection of a kit, and the reads that its signing
paths share. The connection does not change during a run.
-/

namespace SmartAccountKit
open Lib

/-- How rule ids are probed on-chain. -/
structure ProbeRuleIds where
  maxRuleId : Option ℕ := none
  maxConsecutiveMisses : Option ℕ := none

/-- The configuration and the connection of a kit. -/
structure KitConfig where
  networkPassphrase : String
  upgradeTargetPolicy : UpgradeTargetPolicy
  contractId : Option String
  credentialId : Option String
  signatureExpirationLedgers : ℕ
  probeRuleIds : Option ProbeRuleIds
  deployerPublicKey : String
  hasRelayer : Bool

/-- A text that is there and not empty. -/
def nonEmptyText (text : Option String) : Option String := text.filter (· ≠ "")

@[simp] theorem nonEmptyText_eq_some {text : Option String} {s : String} :
    nonEmptyText text = some s ↔ text = some s ∧ s ≠ "" := by
  simp only [nonEmptyText, Option.filter_eq_some_iff, decide_eq_true_eq]

namespace KitConfig

/-- The connected contract, or an error. -/
def requireWallet (config : KitConfig) : Except JsError String :=
  match nonEmptyText config.contractId with
  | some contractId => .ok contractId
  | none => .error (JsError.walletNotConnected none)

theorem requireWallet_eq_ok {config : KitConfig} {contractId : String} :
    config.requireWallet = .ok contractId ↔ nonEmptyText config.contractId = some contractId := by
  unfold requireWallet
  cases nonEmptyText config.contractId <;> simp

/-- The expiration of a signature when neither the caller nor the entry gives one. -/
def calculateExpiration (config : KitConfig) : KitProgram UInt32 := do
  let sequence ← Program.await .getLatestLedger id
  Program.ofExcept (normalizeSignatureExpirationLedger
    (.ofNat (min 0xffffffff (sequence.toNat + config.signatureExpirationLedgers))))

/-- The lowercase hex hash of the code a contract instance runs. -/
def readInstanceWasmHash : ContractExecutable → Option String
  | .wasm wasmHash => some (toHex wasmHash.1)
  | _ => none

/-- The scheme of an instance, by the hash of its code. -/
def schemeOfInstance (schemes : List (String × AuthDigestScheme)) (contractId : String)
    (executable : ContractExecutable) : Except JsError AuthDigestScheme :=
  match readInstanceWasmHash executable with
  | none => .error (JsError.authDigestScheme contractId "not-a-wasm-contract")
  | some wasmHash =>
    match schemes.lookup wasmHash with
    | none => .error (JsError.authDigestScheme contractId wasmHash)
    | some scheme => .ok scheme

/-- Resolve the digest scheme of the code that a smart account runs now. -/
def resolveAuthDigestScheme (config : KitConfig) (contractId : String) :
    KitProgram AuthDigestScheme := do
  let executable ← Program.await (.getContractInstance contractId) id
  Program.ofExcept
    (schemeOfInstance config.upgradeTargetPolicy.authDigestSchemes contractId executable)

def getSubmissionMethod (config : KitConfig) (forceMethod : Option SubmissionMethod) :
    SubmissionMethod :=
  match forceMethod with
  | some method => method
  | none => if config.hasRelayer then .relayer else .rpc

def shouldUseFeeSponsoring (config : KitConfig) (forceMethod : Option SubmissionMethod) : Bool :=
  config.getSubmissionMethod forceMethod = .relayer

end KitConfig

/-- Read a context rule. The id is encoded in the transaction that reads it. -/
def readContextRule (contextRuleId : JsNumber) : KitProgram ContextRule := do
  let id ← Program.ofExcept (ruleIdToU32 contextRuleId)
  Program.await (.readContextRule id) (·)

/-- A kit that is connected to the sample wallet. -/
def sampleConfig : KitConfig :=
  { networkPassphrase := "Sample Network"
    upgradeTargetPolicy :=
      { acceptedWasmHashes := []
        authDigestSchemes := [(toHex (List.replicate 32 13), .legacyConcat)] }
    contractId := some (sampleContractId 7)
    credentialId := some "AA"
    signatureExpirationLedgers := 720
    probeRuleIds := none
    deployerPublicKey := sampleAccountId 4
    hasRelayer := true }

theorem sampleConfig_connected :
    nonEmptyText sampleConfig.contractId = some (sampleContractId 7) :=
  nonEmptyText_eq_some.mpr ⟨rfl, by set_option maxRecDepth 20000 in decide⟩

end SmartAccountKit
