import SmartAccountKit.Lib.Search
import SmartAccountKit.RelayerProxy.Submissions

/-!
# The handler of the relayer proxy

A `POST /` request is limited, parsed and validated before a key of the relayer is read,
generated or used. On testnet a submission that lacks an account is sent again after a
friendbot has funded the account.
-/

namespace SmartAccountKit.RelayerProxy
open Lib Program

/-- A request to the proxy: the headers that are read, and the text of the body. -/
structure PostRequest where
  origin : Option String
  clientIP : Option String
  text : String

def UNKNOWN_IP : String := "unknown"

def getClientIP (header : Option String) : String :=
  let ip := trim (header.getD "")
  if ip = "" then UNKNOWN_IP else ip

namespace Worker

/-! ## Limits -/

/-- What an answer of a limiter object comes to. -/
def readDecision : Except String (Option RateDecision) → Except ProxyError RateDecision
  | .ok (some decision) => .ok decision
  | .ok none => .error (refuse "Rate limiter is unavailable" 503)
  | .error message => .error (.other message)

def rateDecision (name : String) (limit windowMs : ℕ) :
    Program ProxyServices ProxyError RateDecision :=
  .await (I := ProxyServices) (.rateDecision name limit windowMs) readDecision

/-- Nothing if both limiters let the request go on. -/
def combineDecisions (globalDecision ipDecision : Except ProxyError RateDecision) :
    Except ProxyError (Option ℤ) := do
  let globalDecision ← globalDecision
  let ipDecision ← ipDecision
  if globalDecision.allowed && ipDecision.allowed then return none
  else return some (max globalDecision.retryAfterSeconds ipDecision.retryAfterSeconds)

/-- A limit that the environment configures. -/
def limitOf (value : Option JsNumber) (fallback : ℕ) (name : String) : Except ProxyError ℕ :=
  (positiveInteger value fallback name).mapError .request

/-- Ask both limiters. The global one has been asked when the limit of the other is parsed. -/
def enforceRateLimit (env : RateEnv) (ip : String) :
    Program ProxyServices ProxyError (Option ℤ) := do
  let windowSeconds ← ofExcept (limitOf env.RATE_LIMIT_WINDOW_SECONDS
    DEFAULT_RATE_LIMIT_WINDOW_SECONDS "RATE_LIMIT_WINDOW_SECONDS")
  let globalLimit ← ofExcept (limitOf env.RATE_LIMIT_GLOBAL DEFAULT_RATE_LIMIT_GLOBAL
    "RATE_LIMIT_GLOBAL")
  let globalDecision ← attempt
    (rateDecision GLOBAL_RATE_LIMITER globalLimit (windowSeconds * 1000))
  let ipLimit ← ofExcept (limitOf env.RATE_LIMIT_PER_IP DEFAULT_RATE_LIMIT_PER_IP
    "RATE_LIMIT_PER_IP")
  let ipDecision ← attempt (rateDecision ("ip:" ++ ip) ipLimit (windowSeconds * 1000))
  ofExcept (combineDecisions globalDecision ipDecision)

/-! ## Keys -/

/-- The clock. -/
def now : Program ProxyServices ProxyError Timestamp :=
  .await (I := ProxyServices) .now .ok

/-- The stored text of a key. A read that fails finds none. -/
def storedText (kvKey : String) : Program ProxyServices ProxyError (Option String) :=
  .await (I := ProxyServices) (.getKey kvKey) fun reply => .ok (reply.toOption.bind id)

/-- Delete a text that holds no key. A failure is only logged. -/
def deleteKey (kvKey : String) : Program ProxyServices ProxyError Unit :=
  .await (I := ProxyServices) (.deleteKey kvKey) fun _ => .ok ()

def putKey (kvKey text : String) : Program ProxyServices ProxyError Unit :=
  .await (I := ProxyServices) (.putKey kvKey text) (Except.mapError ProxyError.other)

/-- Read a key. The clock is read with the text; only a key in another form than a record takes
its time from it. -/
def readStoredApiKey (kvKey : String) :
    Program ProxyServices ProxyError (Option ApiKeyReadResult) := do
  let raw ← storedText kvKey
  match raw.filter (· ≠ "") with
  | none => pure none
  | some raw => do
    let time ← now
    match parseApiKey (trim raw) time with
    | some result => pure (some result)
    | none => do
      deleteKey kvKey
      pure none

def generateApiKey : Program ProxyServices ProxyError (Option String) :=
  .await (I := ProxyServices) .generateKey fun response => .ok (RelayerProxy.generateApiKey response)

def getOrCreateApiKey (ip : String) : Program ProxyServices ProxyError (Option StoredApiKey) := do
  let kvKey := getKVKey ip
  let cached ← readStoredApiKey kvKey
  match cached with
  | some result =>
    if result.needsMigration then do
      putKey kvKey result.storedKey.text
      pure (some result.storedKey)
    else pure (some result.storedKey)
  | none => do
    let apiKey ← generateApiKey
    match apiKey with
    | none => pure none
    | some apiKey => do
      let created ← now
      let storedKey : StoredApiKey := ⟨apiKey, created.toNumber⟩
      putKey kvKey storedKey.text
      pure (some storedKey)

/-! ## Submissions -/

/-- Send the validated body to the relayer. -/
def submit (apiKey : String) :
    SubmissionBody → Program ProxyServices ProxyError (Except SubmitError RelayerResult)
  | .xdr xdr => .await (I := ProxyServices) (.submitTransaction apiKey xdr) .ok
  | .func func auth => .await (I := ProxyServices) (.submitSorobanTransaction apiKey func auth) .ok

def STELLAR_ADDRESS_LENGTH : ℕ := 56

def TESTNET_RETRY_DURATION_MS : ℕ := 300000

/-- The account that an error of the relayer names as missing. -/
def extractMissingAccount (errorMessage : String) : Option String :=
  match firstMatch (afterWord "Account not found:") errorMessage with
  | none => none
  | some rest =>
    let candidate := String.ofList ((afterSpaces rest).take STELLAR_ADDRESS_LENGTH)
    if isValidEd25519PublicKey candidate then some candidate else none

/-- Ask the friendbot to fund an account. A request that fails has not funded it. -/
def fundWithFriendbot (account : String) : Program ProxyServices ProxyError Bool :=
  .await (I := ProxyServices) (.friendbot account) fun reply => .ok (reply.toOption.getD false)

/-- Fund an account that has not been funded for this request. -/
def fundOnce (funded : List String) (account : String) :
    Program ProxyServices ProxyError (List String) :=
  if account ∈ funded then pure funded
  else do
    let ok ← fundWithFriendbot account
    pure (if ok then account :: funded else funded)

/-- The account to fund before the next submission, or the error of the last one. -/
def accountToFund (sdk : ProxySdk) (env : ProxyEnv) (deadline : ℕ) (error : SubmitError) :
    Program ProxyServices ProxyError String :=
  match extractMissingAccount error.message with
  | none => throw (.submit error)
  | some missingAccount =>
    if env.NETWORK ≠ "testnet" then throw (.submit error)
    else do
      let time ← now
      if deadline ≤ time.milliseconds ∨ missingAccount = SHARED_DEPLOYER sdk then
        throw (.submit error)
      else pure missingAccount

/-- Submit until the relayer accepts the submission or gives an error that no funding mends. The
source bounds the loop by the clock only; nothing is returned when the rounds are used up. -/
def submitLoop (sdk : ProxySdk) (env : ProxyEnv) (apiKey : String) (body : SubmissionBody)
    (deadline : ℕ) : ℕ → List String → Program ProxyServices ProxyError (Option RelayerResult)
  | 0, _ => pure none
  | rounds + 1, funded => do
    let result ← submit apiKey body
    match result with
    | .ok result => pure (some result)
    | .error error => do
      let account ← accountToFund sdk env deadline error
      let funded ← fundOnce funded account
      submitLoop sdk env apiKey body deadline rounds funded

/-- The time up to which submissions are sent again. -/
def retryDeadline (env : ProxyEnv) : Program ProxyServices ProxyError ℕ :=
  if env.NETWORK = "testnet" then do
    let time ← now
    pure (time.milliseconds + TESTNET_RETRY_DURATION_MS)
  else pure 0

end Worker

/-! ## Responses -/

/-- The data of a response. -/
inductive ResponseData where
  | submitted (result : RelayerResult)
  | details (code details : Option String)

/-- A response. It succeeds if it has no error. -/
structure ProxyResponse where
  status : ℕ
  error : Option String
  data : Option ResponseData := none
  retryAfter : Option ℤ := none

def ProxyResponse.submitted (result : RelayerResult) : ProxyResponse where
  status := 200
  error := none
  data := some (.submitted result)

/-- The response that reports an error. -/
def ProxyError.response : ProxyError → ProxyResponse
  | .request error => { status := error.status, error := some error.message }
  | .submit (.execution message code details) =>
    { status := 400, error := some message, data := some (.details code details) }
  | .submit (.transport message statusCode) =>
    { status := (statusCode.filter (· ≠ 0)).getD 500, error := some message }
  | .submit (.other message) => { status := 500, error := some message }
  | .other message => { status := 500, error := some message }

namespace Worker

/-- Submit a validated body with a key of the relayer. -/
def sponsor (sdk : ProxySdk) (env : ProxyEnv) (ip : String) (body : SubmissionBody) (rounds : ℕ) :
    Program ProxyServices ProxyError (Option ProxyResponse) := do
  let storedKey ← getOrCreateApiKey ip
  match storedKey with
  | none => throw (refuse "Could not obtain API key. Service may be misconfigured." 500)
  | some storedKey => do
    ofExcept (throwIf (sdk.hasHttpClient = false) (refuse "Channels client has no HTTP client" 500))
    let deadline ← retryDeadline env
    let result ← submitLoop sdk env storedKey.apiKey body deadline rounds []
    pure (result.map ProxyResponse.submitted)

/-- The handler. The number of rounds bounds the submissions. -/
def handle (sdk : ProxySdk) (env : ProxyEnv) (request : PostRequest) (rounds : ℕ) :
    Program ProxyServices ProxyError (Option ProxyResponse) := do
  let ip := getClientIP request.clientIP
  ofExcept (throwIf (ip = UNKNOWN_IP) (refuse "Cloudflare client IP is required"))
  let retryAfter ← enforceRateLimit env.rates ip
  match retryAfter with
  | some seconds =>
    pure (some { status := 429, error := some "Rate limit exceeded", retryAfter := some seconds })
  | none => do
    let body ← ofExcept (parseSubmissionBody request.text)
    validateSubmission sdk env body
    sponsor sdk env ip body rounds

/-- A request of another site, unless its origin is allowed. -/
def originRefused (env : ProxyEnv) (origin : Option String) : Bool :=
  (origin.filter (· ≠ "")).any fun origin => origin ∉ csvSet env.ALLOWED_ORIGINS

/-- What a request comes to. -/
def respond : Except ProxyError (Option ProxyResponse) → Option ProxyResponse
  | .ok response => response
  | .error error => some error.response

/-- `POST /`. -/
def post (sdk : ProxySdk) (env : ProxyEnv) (request : PostRequest) (rounds : ℕ) :
    Program ProxyServices ProxyError (Option ProxyResponse) :=
  if originRefused env request.origin then
    pure (some { status := 403, error := some "Origin is not allowed" })
  else do
    let outcome ← attempt (handle sdk env request rounds)
    pure (respond outcome)

end Worker

end SmartAccountKit.RelayerProxy
