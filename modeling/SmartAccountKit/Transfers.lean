import SmartAccountKit.Submission
import SmartAccountKit.TokenAmount

/-!
# Passkey submissions and transfers

Signing every entry of a call with the connected passkey and submitting it, and
the transfers that build their call first.
-/

namespace SmartAccountKit
open Lib

/-! ## Rule ids -/

/-- The options of a passkey submission. Whether there is a resolver for rule ids decides who is
asked for them. -/
structure SignAndSubmitOptions where
  credentialId : Option String := none
  expiration : Option JsNumber := none
  forceMethod : Option SubmissionMethod := none
  resolveContextRuleIds : Bool := false

/-- The rules of the wallet and the signer of the credential, read once for all entries. A read
that fails ends the submission, so a cache has both or is not there. -/
structure ConnectedContextRuleCache where
  rules : List ContextRule
  signer : Signer

/-- The cached rules, or the rules that are listed now. -/
def connectedContextRules (config : KitConfig) (credentialIdOverride : Option String)
    (cache : Option ConnectedContextRuleCache) : KitProgram ConnectedContextRuleCache :=
  match nonEmptyText (credentialIdOverride.or config.credentialId) with
  | none => Program.throw (JsError.walletNotConnected (some "resolve context rule IDs"))
  | some credentialId => do
    let contractId ← Program.ofExcept config.requireWallet
    match cache with
    | some cached => return cached
    | none => do
      let rules ← listContextRules contractId config.probeRuleIds
      let signer ← Program.ofExcept (findWebAuthnSignerForCredential credentialId rules)
      return { rules, signer }

/-- The entries signed so far, and the rules once they are read. -/
structure PasskeySigningState where
  signedAuthEntries : List SorobanAuthorizationEntry
  cache : Option ConnectedContextRuleCache

/-- The rule ids of an entry: the caller's, or those of the connected wallet. -/
def connectedRuleIds (config : KitConfig) (options : SignAndSubmitOptions)
    (cache : Option ConnectedContextRuleCache) (entry : SorobanAuthorizationEntry) (index : ℕ) :
    KitProgram (List JsNumber × Option ConnectedContextRuleCache) :=
  if options.resolveContextRuleIds then do
    let contextRuleIds ← Program.await (.resolveContextRuleIds entry index) id
    return (contextRuleIds, cache)
  else do
    let connected ← connectedContextRules config options.credentialId cache
    let contextRuleIds ← Program.ofExcept
      (resolveContextRuleIdsForEntry entry [connected.signer] connected.rules)
    return (contextRuleIds, some connected)

/-! ## Signing -/

/-- Sign one entry. Only the admin path allows a mutation, that of its transaction. -/
def signCallEntry (config : KitConfig) (options : SignAndSubmitOptions)
    (walletMutationHostFunction : Option HostFunction) (state : PasskeySigningState)
    (indexed : SorobanAuthorizationEntry × ℕ) : KitProgram PasskeySigningState := do
  let (contextRuleIds, cache) ← connectedRuleIds config options state.cache indexed.1 indexed.2
  let signedEntry ← signAuthEntry config indexed.1
    { credentialId := options.credentialId
      expiration := options.expiration
      contextRuleIds := some contextRuleIds
      walletMutationHostFunction }
  return { signedAuthEntries := state.signedAuthEntries ++ [signedEntry], cache }

/-- The source account of a re-simulation; one that cannot be read is reported as missing. -/
def feePayingSource (config : KitConfig) (forceMethod : Option SubmissionMethod) :
    KitProgram Account := do
  match ← (Program.attempt (config.resolveResimSource forceMethod) :
      KitProgram (Except JsError Account)) with
  | .ok sourceAccount => return sourceAccount
  | .error error =>
    if error.errorClass = .submissionError then Program.throw error
    else Program.throw (JsError.submission
      ("Re-simulation requires the fee-paying source account " ++ config.deployerPublicKey ++
        " to exist on-chain. Use a relayer (fee sponsoring) so a sponsor account sources fees, " ++
        "or configure a dedicated \x60deployerSecret\x60 you control and fund that account."))

def signResimulateAndPrepare (config : KitConfig) (hostFunc : HostFunction)
    (authEntries : List SorobanAuthorizationEntry) (options : SignAndSubmitOptions)
    (allowWalletMutation : Bool) : KitProgram Transaction := do
  let walletMutationHostFunction := if allowWalletMutation then some hostFunc else none
  let state ← Program.forEach authEntries.zipIdx { signedAuthEntries := [], cache := none }
    (signCallEntry config options walletMutationHostFunction)
  let sourceAccount ← feePayingSource config options.forceMethod
  resimulateAndAssemble sourceAccount hostFunc state.signedAuthEntries

/-! ## Submitting -/

/-- The function of a call and the entries that its simulation asks for. -/
def ContractCall.invocation (call : ContractCall) :
    Except JsError (HostFunction × List SorobanAuthorizationEntry) :=
  match call.built with
  | none => .error (JsError.submission "Transaction has no built transaction")
  | some built =>
    match built.operations with
    | [.invokeHostFunction func _] => do
      match ← call.simulatedAuth with
      | some auth => return (func, auth)
      | none => throw (JsError.submission "No simulation data or auth entries")
    | [.other] => .error (JsError.submission "Expected invokeHostFunction operation")
    | _ => .error (JsError.submission "Expected exactly one operation")

/-- Sign a call and have its fee payer sign it. -/
def prepareCall (config : KitConfig) (call : ContractCall) (options : SignAndSubmitOptions)
    (allowWalletMutation : Bool) : KitProgram Transaction := do
  let (func, auth) ← Program.ofExcept call.invocation
  let preparedTx ← signResimulateAndPrepare config func auth options allowWalletMutation
  Program.ofExcept (config.signFeePayer preparedTx options.forceMethod)

/-- Sign and submit a call. What fails before the submission is reported as a failed transaction;
the promise of the submission itself is returned as it is. -/
def submitCall (config : KitConfig) (call : ContractCall) (options : SignAndSubmitOptions)
    (allowWalletMutation : Bool) : KitProgram TransactionResult :=
  match nonEmptyText config.contractId with
  | none => return .failure (JsError.walletNotConnected (some "submit a transaction"))
  | some _ => do
    let prepared ← Program.attempt (prepareCall config call options allowWalletMutation)
    match prepared with
    | .ok preparedTx => Program.await (.sendAndPoll preparedTx options.forceMethod) id
    | .error err => return .failure (err.wrap .TRANSACTION_SIGNING_FAILED)

/-- Sign and submit a call. It refuses wallet mutations. -/
def signAndSubmit (config : KitConfig) (call : ContractCall) (options : SignAndSubmitOptions) :
    KitProgram TransactionResult :=
  submitCall config call options false

/-- Sign and submit an administrative call. -/
def signAndSubmitAdmin (config : KitConfig) (call : ContractCall)
    (options : SignAndSubmitOptions) : KitProgram TransactionResult :=
  submitCall config call options true

/-! ## Transfers -/

/-- The source account of the simulation that reads a token. -/
def TOKEN_READ_ACCOUNT : Account :=
  { accountId := "GAAAAAAAAAAAAAAAAAAAAAAAAAAAAAAAAAAAAAAAAAAAAAAAAAAAAWHF", sequence := 0 }

def readOnlyTokenTx (tokenContract functionName : String) (args : List ScVal) :
    Except JsError Transaction := do
  let contractAddress ← toScAddress tokenContract
  return {
    source := TOKEN_READ_ACCOUNT
    func := .invokeContract { contractAddress, functionName := utf8Encode functionName, args }
    auth := []
    signatures := [] }

/-- The decimals that a simulated read gives. -/
def decimalsOfRead : ReadResponse → Except JsError ℕ
  | .error message =>
    if message = "" then .error (JsError.simulation "decimals() returned no result")
    else .error ((decodeContractError message).getD
      (JsError.simulation ("decimals() simulation failed: " ++ message)))
  | .success none => .error (JsError.simulation "decimals() returned no result")
  | .success (some retval) => checkDecimals retval

def readTokenDecimals (tokenContract : String) : NetworkProgram ℕ := do
  let tx ← Program.ofExcept (readOnlyTokenTx tokenContract "decimals" [])
  let sim ← Program.await (.simulateRead tx) id
  Program.ofExcept (decimalsOfRead sim)

def resolveTokenAmount (tokenContract : String) (amount : PrintedNumber) : NetworkProgram ℕ := do
  let decimals ← readTokenDecimals tokenContract
  Program.ofExcept (tokenAmountToRawUnits amount (.ofNat decimals))

def buildDirectTokenTransfer (tokenContract fromAddress toAddress : String)
    (amountInStroops : ℤ) : NetworkProgram ContractCall := do
  let func ← Program.ofExcept
    (buildTokenTransferHostFunction tokenContract fromAddress toAddress amountInStroops)
  let call ← Program.await (.buildWithOp func tokenContract "transfer") id
  match call.simulationError with
  | some message => Program.throw ((decodeContractError message).getD
      (JsError.simulation ("Transaction simulation failed: " ++ message)))
  | none => return call

/-- What a transfer is asked for. -/
structure TransferArgs where
  tokenContract : String
  recipient : String
  amount : PrintedNumber

def TransferArgs.check (args : TransferArgs) (contractId : String) : Except JsError Unit := do
  validateAddress args.tokenContract "tokenContract"
  validateAddress args.recipient "recipient"
  validateAmount args.amount "amount"
  throwIf (args.recipient = contractId) (JsError.validation "Cannot transfer to self")

/-- The call of a transfer. -/
def TransferArgs.build (args : TransferArgs) (contractId : String) :
    NetworkProgram ContractCall := do
  let amountRaw ← resolveTokenAmount args.tokenContract args.amount
  buildDirectTokenTransfer args.tokenContract contractId args.recipient amountRaw

/-- Submit the call of a transfer, or report that it could not be built. -/
def submitBuilt (config : KitConfig) (submit : ContractCall → KitProgram TransactionResult) :
    Except JsError ContractCall → NetworkProgram TransactionResult
  | .ok call => Program.through config.network (submit call)
  | .error err => return .failure (err.wrap .TRANSACTION_SUBMISSION_FAILED)

/-- Build the call of a transfer and submit it. The promise of the submission is returned as it
is. -/
def transferWith (config : KitConfig) (args : TransferArgs)
    (submit : ContractCall → KitProgram TransactionResult) : NetworkProgram TransactionResult :=
  match nonEmptyText config.contractId with
  | none => return .failure (JsError.walletNotConnected (some "transfer"))
  | some contractId =>
    match args.check contractId with
    | .error err => return .failure (err.wrap .INVALID_INPUT)
    | .ok () => do
      let built ← Program.attempt (args.build contractId)
      submitBuilt config submit built

/-- A transfer that the connected passkey signs. -/
def transfer (config : KitConfig) (args : TransferArgs) (options : SignAndSubmitOptions) :
    NetworkProgram TransactionResult :=
  transferWith config args fun call => signAndSubmit config call { options with expiration := none }

/-- A transfer that the selected signers sign. -/
def MultiSignerManager.transfer (config : KitConfig) (args : TransferArgs)
    (selectedSigners : List SelectedSigner) (options : MultiSignerOptions) :
    NetworkProgram TransactionResult :=
  transferWith config args fun call => operation config call.built selectedSigners options

end SmartAccountKit
