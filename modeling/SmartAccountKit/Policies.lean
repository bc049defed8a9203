import SmartAccountKit.AuthPayload
import SmartAccountKit.Lib.Search

/-!
# Constructor policies

The policies that a new wallet installs, and the map that its constructor takes
them in. The map has one value for each address, in the host order of its keys.
-/

namespace SmartAccountKit
open Lib

/-! ## Install parameters -/

/-- A value given where a number is expected. -/
inductive NumericInput where
  | number (value : JsNumber)
  | bigint (value : ℤ)
  | text (value : String)
  | other

/-- The value given as `installParams` of a custom policy: an `ScVal`, an object of another SDK
copy with the `ScVal` that its bytes decode to, or anything else. -/
inductive CustomInput where
  | scVal (value : ScVal)
  | foreign (decoded : Option ScVal)
  | other

/-- The install parameters of a policy, by its type. -/
inductive InstallParams where
  | threshold (threshold : NumericInput)
  | spendingLimit (periodLedgers spendingLimit : NumericInput)
  | weightedThreshold (signerWeights : Option (List (Signer × NumericInput)))
      (threshold : NumericInput)
  | custom (value : CustomInput)

structure PolicyConfig where
  address : String
  installParams : InstallParams

/-- The integer that the decimal digits of a trimmed text denote. -/
def decimalText (text : String) : Option ℕ :=
  match readDigits (afterSpaces text.toList) with
  | some (value, rest) => if afterSpaces rest = [] then some value else none
  | none => none

/-- The integer that a trimmed text denotes, with an optional minus sign. -/
def signedDecimalText (text : String) : Option ℤ :=
  match afterSpaces text.toList with
  | '-' :: rest =>
    match readDigits rest with
    | some (value, rest) => if afterSpaces rest = [] then some (-value) else none
    | none => none
  | _ => (decimalText text).map fun n => (n : ℤ)

/-- The integer of a number, if it is one. -/
def integerNumber : JsNumber → Option ℤ
  | .finite value => if value.den = 1 then some value.num else none
  | _ => none

def requireU32 (value : NumericInput) (field : String) : Except JsError UInt32 :=
  let big : Option ℤ := match value with
    | .number n => integerNumber n
    | .bigint n => some n
    | .text text => (decimalText text).map fun n => (n : ℤ)
    | .other => none
  match big with
  | some n =>
    if n < 0 ∨ 0xffffffff < n then .error (JsError.plain (field ++ " must be a u32"))
    else .ok (UInt32.ofNat n.toNat)
  | none => .error (JsError.plain (field ++ " must be a u32"))

def requireI128 (value : NumericInput) (field : String) : Except JsError (BitVec 128) :=
  let big : Option ℤ := match value with
    | .number n => integerNumber n
    | .bigint n => some n
    | .text text => signedDecimalText text
    | .other => none
  match big with
  | some n =>
    if n < -2 ^ 127 ∨ 2 ^ 127 - 1 < n then .error (JsError.plain (field ++ " is out of i128 range"))
    else .ok (BitVec.ofInt 128 n)
  | none => .error (JsError.plain (field ++ " must be an integer, bigint, or numeric string"))

/-- An entry of a parameter struct. -/
def symbolEntry (key : String) (val : ScVal) : ScVal × ScVal := (scvSymbol key, val)

def encodeThresholdParams (threshold : NumericInput) : Except JsError ScVal := do
  let threshold ← requireU32 threshold "threshold"
  return .map (some [symbolEntry "threshold" (.u32 threshold)])

def encodeSpendingLimitParams (periodLedgers spendingLimit : NumericInput) :
    Except JsError ScVal := do
  let periodLedgers ← requireU32 periodLedgers "period_ledgers"
  let spendingLimit ← requireI128 spendingLimit "spending_limit"
  return .map (some [symbolEntry "period_ledgers" (.u32 periodLedgers),
    symbolEntry "spending_limit" (.i128 spendingLimit)])

def encodeWeightedThresholdParams (signerWeights : Option (List (Signer × NumericInput)))
    (threshold : NumericInput) : Except JsError ScVal :=
  match signerWeights with
  | none => .error (JsError.plain "signer_weights must be a Map<Signer, number>")
  | some signerWeights => do
    let weightEntries ← signerWeights.mapM fun (signer, weight) => do
      return (← signerToScVal signer, ScVal.u32 (← requireU32 weight "signer weight"))
    let threshold ← requireU32 threshold "threshold"
    return .map (some [
      symbolEntry "signer_weights" (.map (some (sortBy compareKeys weightEntries))),
      symbolEntry "threshold" (.u32 threshold)])

/-- Parameters that do not fit their policy type are refused with the reason. -/
def convertPolicyParams (policyType : String) (params : Except JsError ScVal) :
    Except JsError ScVal :=
  match params with
  | .ok value => .ok value
  | .error error => .error (JsError.validation
      ("Failed to convert " ++ policyType ++ " policy parameters into an ScVal. " ++
        "Check that the params match the expected shape.") .INVALID_INPUT
      [("policyType", .text policyType), ("cause", .text error.message)])

/-- Custom parameters as an `ScVal`; the bytes of another SDK copy are decoded again. -/
def toKitScVal (value : CustomInput) (address : String) : Except JsError (Option ScVal) :=
  match value with
  | .scVal value => .ok (some value)
  | .foreign (some decoded) => .ok (some decoded)
  | .foreign none => .error (JsError.validation
      ("Policy " ++ address ++ ": custom policy installParams has toXDR() but does not encode an " ++
        "xdr.ScVal. It may come from a different @stellar/stellar-sdk copy; pass an " ++
        "xdr.ScVal whose toXDR() returns valid ScVal bytes.") .INVALID_INPUT
      [("address", .text address)])
  | .other => .ok none

/-- The `ScVal` that a policy is installed with. -/
def PolicyConfig.scParams (policy : PolicyConfig) : Except JsError ScVal :=
  match policy.installParams with
  | .threshold threshold => convertPolicyParams "threshold" (encodeThresholdParams threshold)
  | .spendingLimit periodLedgers spendingLimit =>
    convertPolicyParams "spending_limit" (encodeSpendingLimitParams periodLedgers spendingLimit)
  | .weightedThreshold signerWeights threshold =>
    convertPolicyParams "weighted_threshold"
      (encodeWeightedThresholdParams signerWeights threshold)
  | .custom value => do
    match ← toKitScVal value policy.address with
    | some custom => return custom
    | none => throw (JsError.validation
        ("Policy " ++ policy.address ++ ": custom policies must provide installParams as an " ++
          "xdr.ScVal (or set a known 'type'). An xdr.ScVal from a different " ++
          "@stellar/stellar-sdk copy must still provide toXDR().") .INVALID_INPUT
        [("address", .text policy.address)])

/-! ## The constructor map -/

/-- A map from policy addresses to install parameters, in insertion order. -/
abbrev PolicyMap := List (String × ScVal)

/-- `map.set(address, value)`: an address that is there keeps its place. -/
def PolicyMap.set (policies : PolicyMap) (address : String) (value : ScVal) : PolicyMap :=
  if policies.any fun e => e.1 == address then
    policies.map fun e => if e.1 == address then (address, value) else e
  else policies ++ [(address, value)]

def policyAddressToScVal (address : String) : Except JsError ScVal :=
  match addressFromString address with
  | some a => .ok (.address a)
  | none => .error (JsError.validation ("Invalid policy address: " ++ address) .INVALID_ADDRESS
      [("address", .text address)])

/-- A policy map with the key of each address. -/
def keyedPolicies {T : Type} (policies : List (String × T)) :
    Except JsError (List (ScVal × (String × T))) :=
  policies.mapM fun e => do return (← policyAddressToScVal e.1, e)

/-- The map in the host order of its keys. -/
def sortPolicyMap {T : Type} (policies : List (String × T)) : Except JsError (List (String × T)) := do
  let entries ← keyedPolicies policies
  return (sortBy (fun a b => compareScVal a.1 b.1) entries).map (·.2)

/-- The policies as the map that the constructor takes. -/
def buildConstructorPolicies (policies : List PolicyConfig) : Except JsError PolicyMap := do
  let map ← policies.foldlM (fun map policy => do
    return PolicyMap.set map policy.address (← policy.scParams)) []
  sortPolicyMap map

end SmartAccountKit
