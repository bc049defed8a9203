import SmartAccountKit.Deployment
import SmartAccountKit.Transfers

/-!
# Funding a wallet

On the test network a temporary account is funded by Friendbot, and transfers
what it got to the connected wallet. It signs and pays for the transfer itself.
-/

namespace SmartAccountKit
open Lib

def FRIENDBOT_ACCOUNT_LOOKUP_ATTEMPTS : ℕ := 10

def FRIENDBOT_RESERVE_XLM : ℚ := 5

def STROOPS_PER_XLM : ℚ := 10000000

/-- The passphrase of the test network. -/
def TESTNET : String := "Test SDF Network ; September 2015"

def stroopsToXlm (stroops : Int64) : ℚ := stroops.toInt / STROOPS_PER_XLM

/-- `Math.round` of the stroops of an amount. -/
def xlmToStroops (xlm : ℚ) : ℤ := ⌊xlm * STROOPS_PER_XLM + 1 / 2⌋

/-- The public key of a keypair. -/
def publicKeyText (rawPublicKey : BytesN 32) : String := encodeCheck 48 rawPublicKey.1

/-- Look an account up until it is found, and end with the last error. -/
def getAccountWithRetry (publicKey : String) (lastError : JsError) : ℕ → NetworkProgram Account
  | 0 => Program.throw lastError
  | attempts + 1 => do
    match ← Program.await (.kit (.getAccount publicKey)) .ok with
    | .ok account => return account
    | .error error => getAccountWithRetry publicKey error attempts

/-- A temporary account, funded and looked up, with the amount that it can transfer. -/
structure FundedAccount where
  rawPublicKey : BytesN 32
  account : Account
  transferAmount : ℚ

/-- Check the answer of Friendbot. -/
def checkFriendbot : FriendbotResponse → Except JsError Unit
  | .ok => .ok ()
  | .refused text => do throw (JsError.submission ("Friendbot error: " ++ (← text)))

/-- Have Friendbot fund a new account. -/
def fundTempAccount (rawPublicKey : BytesN 32) : NetworkProgram FundedAccount := do
  let publicKey := publicKeyText rawPublicKey
  let friendbotResponse ← Program.await (.fetchFriendbot publicKey) id
  Program.ofExcept (checkFriendbot friendbotResponse)
  let account ← getAccountWithRetry publicKey (JsError.plain "undefined")
    FRIENDBOT_ACCOUNT_LOOKUP_ATTEMPTS
  let balance ← Program.await (.getAccountEntry publicKey) id
  let transferAmount := stroopsToXlm balance - FRIENDBOT_RESERVE_XLM
  Program.ofExcept (throwIf (transferAmount ≤ 0)
    (JsError.submission "Insufficient balance after reserve"))
  return { rawPublicKey, account, transferAmount }

/-- The entries of a simulated transfer and the ledger it ran at. -/
def simulatedFunding : FundingSimulation →
    Except JsError (List SorobanAuthorizationEntry × UInt32)
  | .error message => .error ((decodeContractError message).getD (JsError.simulation
      (if message = "" then "Simulation failed" else message)))
  | .success auth latestLedger => .ok (auth, latestLedger)

/-- Sign an entry with the temporary key. -/
def signWithTempKey (config : KitConfig) (rawPublicKey : BytesN 32)
    (entry : SorobanAuthorizationEntry) (expirationLedger : ℕ) :
    NetworkProgram SorobanAuthorizationEntry := do
  let (signedEntry, preimage) ← Program.ofExcept
    (buildSignaturePreimage config.networkPassphrase entry (.ofNat expirationLedger))
  let signature ← Program.await (.signWithTempKeypair (hash preimage.toXDR)) .ok
  return signedEntry.setSignature (buildAddressSignatureScVal rawPublicKey.1 signature)

/-- Sign one entry of the transfer. One that authorizes as the source account gets address
credentials of the temporary account. -/
def signFundingEntry (config : KitConfig) (rawPublicKey : BytesN 32) (expirationLedger : ℕ)
    (signedAuthEntries : List SorobanAuthorizationEntry) (entry : SorobanAuthorizationEntry) :
    NetworkProgram (List SorobanAuthorizationEntry) :=
  match entry.credentials with
  | .sourceAccount => do
    let nonce ← Program.await (.kit .randomAuthEntryNonce) .ok
    let addressEntry : SorobanAuthorizationEntry :=
      { credentials := createAddressCredentials
          { address := .account rawPublicKey
            nonce
            signatureExpirationLedger := UInt32.ofNat expirationLedger
            signature := .void }
        rootInvocation := entry.rootInvocation }
    let signedEntry ← signWithTempKey config rawPublicKey addressEntry expirationLedger
    return signedAuthEntries ++ [signedEntry]
  | .addressWithDelegates _ => Program.throw (JsError.submission
      "ADDRESS_WITH_DELEGATES auth entries are not supported by fundWallet() yet")
  | .address _ | .addressV2 _ => do
    let signedEntry ← signWithTempKey config rawPublicKey entry expirationLedger
    return signedAuthEntries ++ [signedEntry]

/-- Simulate the transfer of a funded account to a wallet, and sign its entries. -/
def prepareFunding (config : KitConfig) (funded : FundedAccount)
    (nativeTokenContract contractId : String) :
    NetworkProgram (HostFunction × List SorobanAuthorizationEntry) := do
  let func ← Program.ofExcept (buildTokenTransferHostFunction nativeTokenContract
    (publicKeyText funded.rawPublicKey) contractId (xlmToStroops funded.transferAmount))
  let simResult ← Program.await
    (.simulateFunding { source := funded.account, func, auth := [], signatures := [] }) id
  let (authEntries, latestLedger) ← Program.ofExcept (simulatedFunding simResult)
  let signedAuthEntries ← Program.forEach authEntries []
    (signFundingEntry config funded.rawPublicKey (latestLedger.toNat + LEDGERS_PER_HOUR))
  return (func, signedAuthEntries)

/-- The method of a funding transfer: a relayer would refuse it, so RPC unless another is forced. -/
def fundingMethod (forceMethod : Option SubmissionMethod) : Option SubmissionMethod :=
  some (forceMethod.getD .rpc)

/-- Submit the transfer. The temporary account is source and fee payer in the deployer's place. -/
def submitFunding (config : KitConfig) (rawPublicKey : BytesN 32) (func : HostFunction)
    (signedAuthEntries : List SorobanAuthorizationEntry)
    (forceMethod : Option SubmissionMethod) : NetworkProgram TransactionResult := do
  let publicKey := publicKeyText rawPublicKey
  let sourceAccount ← Program.await (.kit (.getAccount publicKey)) id
  let preparedTx ← Program.through config.network
    (resimulateAndAssemble sourceAccount func signedAuthEntries)
  let submissionMethod := fundingMethod forceMethod
  let preparedTx ← Program.ofExcept
    ({ config with deployerPublicKey := publicKey }.signFeePayer preparedTx submissionMethod)
  Program.through config.network (Program.await (.sendAndPoll preparedTx submissionMethod) id)

/-- Fund a new account and transfer its amount to a wallet. -/
def fundFromFriendbot (config : KitConfig) (nativeTokenContract contractId : String)
    (forceMethod : Option SubmissionMethod) : NetworkProgram (TransactionResult × ℚ) := do
  let rawPublicKey ← Program.await .randomKeypair .ok
  let funded ← fundTempAccount rawPublicKey
  let (func, signedAuthEntries) ← prepareFunding config funded nativeTokenContract contractId
  let txResult ← submitFunding config rawPublicKey func signedAuthEntries forceMethod
  return (txResult, funded.transferAmount)

/-- The result of funding a wallet, with the amount where it succeeded. -/
structure FundingResult where
  result : TransactionResult
  amount : Option ℚ := none

/-- What `fundWallet` makes of its outcome. An early failed transaction of the source is a throw. -/
def fundingResult : Except JsError (TransactionResult × ℚ) → FundingResult
  | .ok (.success hash ledger, amount) => { result := .success hash ledger, amount := some amount }
  | .ok (.failure error hash, _) => { result := .failure error hash }
  | .error err => { result := .failure (err.wrap .TRANSACTION_SUBMISSION_FAILED) }

def fundWallet (config : KitConfig) (nativeTokenContract : String)
    (forceMethod : Option SubmissionMethod) : NetworkProgram FundingResult :=
  match nonEmptyText config.contractId with
  | none => return { result := .failure (JsError.walletNotConnected (some "fund a wallet")) }
  | some contractId =>
    if config.networkPassphrase ≠ TESTNET then
      return { result := .failure (JsError.submission "fundWallet() only works on testnet") }
    else do
      let outcome ← Program.attempt
        (fundFromFriendbot config nativeTokenContract contractId forceMethod)
      return fundingResult outcome

end SmartAccountKit
