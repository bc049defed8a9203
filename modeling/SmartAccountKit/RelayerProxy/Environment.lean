import SmartAccountKit.Indexer
import SmartAccountKit.Lib.Lists
import SmartAccountKit.RelayerProxy.ApiKeys
import SmartAccountKit.RelayerProxy.RateLimiter
import SmartAccountKit.Xdr.Envelope

/-!
# What the relayer proxy reads and asks

The variables that configure the proxy, what it takes from the SDK, and the requests
that it makes while it handles a submission.
-/

namespace SmartAccountKit.RelayerProxy
open Lib

/-! ## Errors -/

/-- What a submission to the relayer throws: an error of its execution or its transport, or another
one. -/
inductive SubmitError where
  | execution (message : String) (code details : Option String)
  | transport (message : String) (statusCode : Option ℕ)
  | other (message : String)

def SubmitError.message : SubmitError → String
  | execution message _ _ => message
  | transport message _ => message
  | other message => message

/-- An error of the proxy: one that it words itself, one of the relayer, or one that another library
throws. -/
inductive ProxyError where
  | request (error : RequestError)
  | submit (error : SubmitError)
  | other (message : String)

/-- A refusal that the proxy words itself. -/
def refuse (message : String) (status : ℕ := 400) : ProxyError := .request { message, status }

/-! ## Variables -/

/-- The variables of the proxy, as texts. -/
structure ProxyEnv where
  NETWORK : String
  STELLAR_RPC_URL : String
  ALLOWED_ORIGINS : Option String := none
  ALLOWED_DEPLOYER_ADDRESSES : Option String := none
  ALLOWED_ACCOUNT_WASM_HASHES : Option String := none
  ALLOWED_DEPLOY_WASM_HASHES : Option String := none
  ALLOWED_WALLET_CONTRACT_IDS : Option String := none
  ALLOWED_TOKEN_CONTRACT_IDS : Option String := none
  ALLOWED_WALLET_FUNCTIONS : Option String := none
  MAX_RESOURCE_FEE_STROOPS : Option String := none
  MAX_TOTAL_FEE_STROOPS : Option String := none
  RATE_LIMIT_WINDOW_SECONDS : Option String := none
  RATE_LIMIT_PER_IP : Option String := none
  RATE_LIMIT_GLOBAL : Option String := none

/-- The members of a comma-separated list. -/
def csvSet (value : Option String) : List String :=
  (((value.getD "").toList.splitOn ',').map fun item => trim (String.ofList item)).filter (· ≠ "")

/-- The members of a comma-separated list in lower case. -/
def csvSetLower (lower : LowerCase) (value : Option String) : List String :=
  (csvSet value).map lower.text

/-- `/^[0-9a-f]{64}$/`. -/
def isWasmHash (text : String) : Bool :=
  text.toList.length == 64 && text.toList.all fun c => hexAlphabet.contains c

def wasmHashSet (lower : LowerCase) (value : Option String) (name : String) :
    Except ProxyError (List String) :=
  let hashes := csvSetLower lower value
  if hashes.all isWasmHash then .ok hashes
  else .error (refuse (name ++ " contains an invalid hash") 500)

/-- The account code that a sponsored wallet call may run. -/
def allowedWasmHashes (lower : LowerCase) (env : ProxyEnv) : Except ProxyError (List String) :=
  wasmHashSet lower env.ALLOWED_ACCOUNT_WASM_HASHES "ALLOWED_ACCOUNT_WASM_HASHES"

/-- The account code that a sponsored deployment may install. -/
def allowedDeployWasmHashes (lower : LowerCase) (env : ProxyEnv) :
    Except ProxyError (List String) :=
  if env.ALLOWED_DEPLOY_WASM_HASHES.all fun text => trim text = "" then allowedWasmHashes lower env
  else wasmHashSet lower env.ALLOWED_DEPLOY_WASM_HASHES "ALLOWED_DEPLOY_WASM_HASHES"

/-- `BigInt(text)`. A numeral with a base prefix has no sign, and a blank text is zero. -/
def textBigInt? (text : String) : Option ℤ :=
  let cs := (trim text).toList
  if cs = [] then some 0
  else
    match basedNumeral? cs with
    | some n => some n
    | none =>
      let (negative, digits) := readSign cs
      (baseDigits? 10 digits).map fun n => if negative then -(n : ℤ) else n

/-- `BigInt(text)` where it may throw. -/
def parseBigInt (text : String) : Except ProxyError ℤ :=
  match textBigInt? text with
  | some value => .ok value
  | none => .error (.other ("Cannot convert " ++ text ++ " to a BigInt"))

/-- A fee ceiling: a variable, or its default. -/
def feeCeiling (value : Option String) (fallback : ℕ) (name : String) : Except ProxyError ℤ :=
  match (value.map textBigInt?).getD (some (fallback : ℤ)) with
  | some fee =>
    if fee < 0 then .error (refuse (name ++ " must be a non-negative integer") 500) else .ok fee
  | none => .error (refuse (name ++ " must be a non-negative integer") 500)

def DEFAULT_MAX_RESOURCE_FEE_STROOPS : ℕ := 1000000
def DEFAULT_MAX_TOTAL_FEE_STROOPS : ℕ := 1100000

def maxResourceFee (env : ProxyEnv) : Except ProxyError ℤ :=
  feeCeiling env.MAX_RESOURCE_FEE_STROOPS DEFAULT_MAX_RESOURCE_FEE_STROOPS
    "MAX_RESOURCE_FEE_STROOPS"

def maxTotalFee (env : ProxyEnv) : Except ProxyError ℤ :=
  feeCeiling env.MAX_TOTAL_FEE_STROOPS DEFAULT_MAX_TOTAL_FEE_STROOPS "MAX_TOTAL_FEE_STROOPS"

def networkPassphrase (env : ProxyEnv) : Except ProxyError String :=
  if env.NETWORK = "testnet" then .ok "Test SDF Network ; September 2015"
  else if env.NETWORK = "mainnet" then .ok "Public Global Stellar Network ; September 2015"
  else .error (refuse "NETWORK must be testnet or mainnet" 500)

/-- The functions of a wallet that are sponsored by default. -/
def DEFAULT_WALLET_FUNCTIONS : List String :=
  ["execute", "upgrade", "add_policy", "remove_policy", "add_signer", "remove_signer",
    "add_context_rule", "remove_context_rule", "batch_add_signer", "update_context_rule_name",
    "update_context_rule_valid_until"]

/-- The functions of a wallet that are sponsored. -/
def allowedWalletFunctions (env : ProxyEnv) : List String :=
  csvSet (some (env.ALLOWED_WALLET_FUNCTIONS.getD (",".intercalate DEFAULT_WALLET_FUNCTIONS)))

/-- The rate limits that the texts of the environment configure. -/
def ProxyEnv.rates (env : ProxyEnv) : RateEnv where
  RATE_LIMIT_WINDOW_SECONDS := env.RATE_LIMIT_WINDOW_SECONDS.map textNumber
  RATE_LIMIT_GLOBAL := env.RATE_LIMIT_GLOBAL.map textNumber
  RATE_LIMIT_PER_IP := env.RATE_LIMIT_PER_IP.map textNumber

/-! ## The SDK -/

/-- What the proxy takes from the SDK and the relayer's client. -/
structure ProxySdk where
  lower : LowerCase
  hostFunctionFromXDR : String → Option HostFunction
  authorizationEntryFromXDR : String → Option SorobanAuthorizationEntry
  /-- `TransactionBuilder.fromXDR` with the passphrase of a network. -/
  transactionFromXDR : String → String → Option DecodedEnvelope
  /-- The public key of a raw seed. -/
  publicKeyOfSeed : BytesN 32 → BytesN 32
  /-- A signature of a hash is one of the key. -/
  verify : BytesN 32 → BytesN 32 → Bytes → Bool
  /-- The client of the relayer has the HTTP client whose options the proxy sets. -/
  hasHttpClient : Bool

def DEPLOYER_SEED : String := "openzeppelin-smart-account-kit"

/-- The account of the public deterministic seed. -/
def SHARED_DEPLOYER (sdk : ProxySdk) : String :=
  encodeCheck 48 (sdk.publicKeyOfSeed (hash (utf8Encode DEPLOYER_SEED))).1

/-! ## Requests -/

/-- A transaction that is simulated: one that is built around a host function, or a decoded one. -/
inductive SimulatedTransaction where
  | built (source sequence fee networkPassphrase : String) (func : HostFunction)
      (auth : List SorobanAuthorizationEntry)
  | decoded (transaction : DecodedTransaction)

/-- The answer to a simulation. Building the Soroban data of a success may throw. -/
inductive SimulationAnswer where
  | error
  | restore
  | success (minResourceFee : String) (transactionData : Option SorobanTransactionData)

/-- What the relayer answers to a submission. -/
structure RelayerResult where
  transactionId : Option String
  hash : Option String
  status : Option String

inductive ProxyRequest where
  /-- Ask the limiter object with a name. -/
  | rateDecision (name : String) (limit windowMs : ℕ)
  /-- The value of a contract's instance entry in the ledger. -/
  | getLedgerEntry (contractId : String)
  | simulateTransaction (transaction : SimulatedTransaction)
  | getKey (kvKey : String)
  | putKey (kvKey text : String)
  | deleteKey (kvKey : String)
  | generateKey
  | now
  | submitTransaction (apiKey xdr : String)
  | submitSorobanTransaction (apiKey func : String) (auth : List String)
  | friendbot (account : String)

/-- The interface of the proxy. A request other than to the clock may fail. -/
def ProxyServices : Interface where
  Request := ProxyRequest
  Reply
    -- a limiter object may answer with an error status
    | .rateDecision _ _ _ => Except String (Option RateDecision)
    | .getLedgerEntry _ => Except String (Option ScVal)
    | .simulateTransaction _ => Except String SimulationAnswer
    | .getKey _ => Except String (Option String)
    | .putKey _ _ => Except String Unit
    | .deleteKey _ => Except String Unit
    | .generateKey => GenResponse
    | .now => Timestamp
    | .submitTransaction _ _ => Except SubmitError RelayerResult
    | .submitSorobanTransaction _ _ _ => Except SubmitError RelayerResult
    | .friendbot _ => Except String Bool

end SmartAccountKit.RelayerProxy
