import SmartAccountKit.Lib.FixedWindow
import SmartAccountKit.Lib.JsNumber

/-!
# The rate limits of the relayer proxy

A limiter object counts requests in fixed windows. The proxy asks one object for
all requests and one for each client, both at once, and refuses a request if one
of them does.
-/

namespace SmartAccountKit.RelayerProxy
open Lib

/-! ## One limiter -/

structure RateState where
  windowStartedAt : ℤ
  count : ℕ

structure RateDecision where
  allowed : Bool
  retryAfterSeconds : ℤ

/-- The positive safe integer that a number is. -/
def positive? : JsNumber → Option ℕ
  | .finite value =>
    if (JsNumber.finite value).isSafeInteger ∧ 0 < value then some value.num.toNat else none
  | _ => none

/-- The window in which a request is counted. -/
def currentWindow (windowMs : ℕ) (now : ℤ) (stored : Option RateState) : RateState :=
  match stored with
  | none => { windowStartedAt := now, count := 0 }
  | some stored =>
    if now - stored.windowStartedAt ≥ windowMs then { windowStartedAt := now, count := 0 }
    else stored

/-- One call of a limiter object at a time. An invalid configuration is answered with no decision
but the status 500. -/
def RequestRateLimiter.fetch (limit windowMs : JsNumber) (now : ℤ) (stored : Option RateState) :
    Option RateDecision × Option RateState :=
  match positive? limit, positive? windowMs with
  | some limit, some windowMs =>
    let current := currentWindow windowMs now stored
    if current.count ≥ limit then
      (some
        { allowed := false
          retryAfterSeconds :=
            max 1 ⌈((current.windowStartedAt + windowMs - now : ℤ) : ℚ) / 1000⌉ }, stored)
    else
      (some { allowed := true, retryAfterSeconds := 0 },
        some { current with count := current.count + 1 })
  | _, _ => (none, stored)

/-! ## The limits of the proxy -/

structure RequestError where
  message : String
  status : ℕ := 400

/-- The rate limits in the environment of the proxy, as the numbers that their texts are. -/
structure RateEnv where
  RATE_LIMIT_WINDOW_SECONDS : Option JsNumber := none
  RATE_LIMIT_GLOBAL : Option JsNumber := none
  RATE_LIMIT_PER_IP : Option JsNumber := none

def DEFAULT_RATE_LIMIT_WINDOW_SECONDS : ℕ := 60
def DEFAULT_RATE_LIMIT_PER_IP : ℕ := 10
def DEFAULT_RATE_LIMIT_GLOBAL : ℕ := 100

def GLOBAL_RATE_LIMITER : String := "global"

def positiveInteger (value : Option JsNumber) (fallback : ℕ) (name : String) :
    Except RequestError ℕ :=
  match positive? (value.getD (.ofNat fallback)) with
  | some parsed => .ok parsed
  | none => .error { message := name ++ " must be a positive integer", status := 500 }

/-- The states of the limiter objects, by their names. -/
abbrev RateStore := String → Option RateState

/-- Ask the limiter object with a name. -/
def rateDecision (store : RateStore) (name : String) (limit windowMs : ℕ) (now : ℤ) :
    Except RequestError RateDecision × RateStore :=
  let (decision, stored) :=
    RequestRateLimiter.fetch (.ofNat limit) (.ofNat windowMs) now (store name)
  let store := Function.update store name stored
  match decision with
  | some decision => (.ok decision, store)
  | none => (.error { message := "Rate limiter is unavailable", status := 503 }, store)

/-- A request of a client. Each of the two limiters reads the clock itself. -/
structure RateRequest where
  ip : String
  globalNow : ℤ
  ipNow : ℤ

/-- Nothing if the request may go on, or the seconds after which to try again. -/
def combineDecisions (globalDecision ipDecision : Except RequestError RateDecision) :
    Except RequestError (Option ℤ) := do
  let globalDecision ← globalDecision
  let ipDecision ← ipDecision
  if globalDecision.allowed && ipDecision.allowed then return none
  else return some (max globalDecision.retryAfterSeconds ipDecision.retryAfterSeconds)

/-- Ask both limiters. The global one has been asked when the limit of the other is parsed. -/
def enforceRateLimit (env : RateEnv) (store : RateStore) (request : RateRequest) :
    Except RequestError (Option ℤ) × RateStore :=
  match positiveInteger env.RATE_LIMIT_WINDOW_SECONDS DEFAULT_RATE_LIMIT_WINDOW_SECONDS
      "RATE_LIMIT_WINDOW_SECONDS" with
  | .error e => (.error e, store)
  | .ok windowSeconds =>
    match positiveInteger env.RATE_LIMIT_GLOBAL DEFAULT_RATE_LIMIT_GLOBAL "RATE_LIMIT_GLOBAL" with
    | .error e => (.error e, store)
    | .ok globalLimit =>
      let (globalDecision, store) := rateDecision store GLOBAL_RATE_LIMITER globalLimit
        (windowSeconds * 1000) request.globalNow
      match positiveInteger env.RATE_LIMIT_PER_IP DEFAULT_RATE_LIMIT_PER_IP
          "RATE_LIMIT_PER_IP" with
      | .error e => (.error e, store)
      | .ok ipLimit =>
        let (ipDecision, store) := rateDecision store ("ip:" ++ request.ip) ipLimit
          (windowSeconds * 1000) request.ipNow
        (combineDecisions globalDecision ipDecision, store)

end SmartAccountKit.RelayerProxy
