import SmartAccountKit.Address
import SmartAccountKit.Lib.Utf8
import SmartAccountKit.Signers
import SmartAccountKit.Xdr.Structure

/-!
# Context rules

The rules of a smart account, the contexts an authorization entry calls in, and
the choice of one rule for each context.
-/

namespace SmartAccountKit
open Lib

/-- The context a rule applies to, or that an invocation requires. -/
inductive ContextRuleType where
  | default
  | callContract (address : String)
  | createContract (wasmHash : Bytes)
  | createContractExternalRef (owner tag : String)
deriving DecidableEq

/-- A context rule of a smart account. -/
structure ContextRule where
  id : UInt32
  contextType : ContextRuleType
  signers : List Signer
  policies : List String
  validUntil : Option UInt32
deriving DecidableEq

/-! ## Contexts -/

def contextRuleTypeKey : ContextRuleType → String
  | .default => "Default"
  | .callContract address => "CallContract:" ++ address
  | .createContract wasmHash => "CreateContract:" ++ toHex wasmHash
  | .createContractExternalRef owner tag => "CreateContractExternalRef:" ++ owner ++ ":" ++ tag

def contextRuleTypeMatches (ruleType requiredType : ContextRuleType) : Bool :=
  ruleType == .default || contextRuleTypeKey ruleType == contextRuleTypeKey requiredType

/-- The context of creating a contract from an executable. -/
def extractCreateContractContextType (executable : ContractExecutable) :
    Except JsError ContextRuleType :=
  match executable with
  | .wasm wasmHash => .ok (.createContract wasmHash.1)
  | .externalRef executableOwner tag => do
    let owner ← scAddressToString executableOwner "Executable reference owner"
    return .createContractExternalRef owner (utf8Decode tag)
  | .stellarAsset => .error (JsError.plain
      ("Unable to extract a WASM hash or executable reference from create-contract " ++
        "authorization entry"))

/-- The context of one node of an invocation tree. -/
def invocationContextType (invocation : SorobanAuthorizedInvocation) :
    Except JsError ContextRuleType :=
  match invocation.function with
  | .contractFn args => do
    return .callContract (← scAddressToString args.contractAddress "Authorized invocation target")
  | .createContractHostFn args => extractCreateContractContextType args.executable
  | .createContractV2HostFn args => extractCreateContractContextType args.executable

mutual

/-- The walk over a tree: add the context of an invocation, then those of the trees below it. -/
def walkInvocation : SorobanAuthorizedInvocation → List ContextRuleType →
    Except JsError (List ContextRuleType)
  | .node function subs, contexts => do
    let contextType ← invocationContextType (.node function subs)
    walkInvocations subs (contexts ++ [contextType])

def walkInvocations : List SorobanAuthorizedInvocation → List ContextRuleType →
    Except JsError (List ContextRuleType)
  | [], contexts => .ok contexts
  | sub :: subs, contexts => do walkInvocations subs (← walkInvocation sub contexts)

end

/-- The contexts of an entry, in the order of the walk. -/
def buildInvocationContextTypes (entry : SorobanAuthorizationEntry) :
    Except JsError (List ContextRuleType) :=
  walkInvocation entry.rootInvocation []

/-! ## Choosing rules -/

/-- The rules of a list that are not `Default` rules, or the whole list if there is none. -/
def preferSpecific (rules : List ContextRule) : List ContextRule :=
  let specific := rules.filter fun rule => rule.contextType ≠ .default
  if specific.isEmpty then rules else specific

/-- Whether every signer of a rule is selected. -/
def ruleSignersSelected (selectedSigners : List Signer) (rule : ContextRule) : Bool :=
  rule.signers.all fun ruleSigner =>
    selectedSigners.any fun selectedSigner => signersEqual ruleSigner selectedSigner

/-- Whether every selected signer stands in a rule. -/
def selectedSignersInRule (selectedSigners : List Signer) (rule : ContextRule) : Bool :=
  selectedSigners.all fun selectedSigner =>
    rule.signers.any fun ruleSigner => signersEqual ruleSigner selectedSigner

/-- Whether the signers of a rule are the selected signers. -/
def isExactSignerMatch (selectedSigners : List Signer) (rule : ContextRule) : Bool :=
  rule.signers.length == selectedSigners.length && selectedSignersInRule selectedSigners rule &&
    ruleSignersSelected selectedSigners rule

/-- Whether a rule has no policy and all its signers are selected. -/
def isSignerSubsetMatch (selectedSigners : List Signer) (rule : ContextRule) : Bool :=
  rule.policies.isEmpty && ruleSignersSelected selectedSigners rule

/-- The error for a context with no unique rule. -/
def noUniqueContextRule (contextType : ContextRuleType) (candidates : List ContextRule) : JsError :=
  let ids := ", ".intercalate (candidates.map fun candidate => toString candidate.id)
  JsError.plain ("Unable to resolve a unique context rule for " ++ contextRuleTypeKey contextType ++
    ". Provide contextRuleIds explicitly. Matched " ++ toString candidates.length ++ " rule(s)" ++
    (if ids = "" then "" else ": " ++ ids) ++ ".")

/-- The id of the rule for one context. -/
def resolveContextRuleId (rules : List ContextRule) (selectedSigners : List Signer)
    (contextType : ContextRuleType) : Except JsError UInt32 :=
  let candidates := rules.filter fun rule => contextRuleTypeMatches rule.contextType contextType
  match candidates with
  | [candidate] => .ok candidate.id
  | _ =>
    match preferSpecific (candidates.filter (isExactSignerMatch selectedSigners)) with
    | [rule] => .ok rule.id
    | _ =>
      match preferSpecific (candidates.filter (isSignerSubsetMatch selectedSigners)) with
      | [rule] => .ok rule.id
      | _ => .error (noUniqueContextRule contextType candidates)

/-- The ids of the rules for an entry, from a snapshot of the rules. -/
def resolveContextRuleIdsForEntry (entry : SorobanAuthorizationEntry)
    (selectedSigners : List Signer) (rulesSnapshot : List ContextRule) :
    Except JsError (List JsNumber) := do
  let contexts ← buildInvocationContextTypes entry
  contexts.mapM fun contextType => do
    return .ofU32 (← resolveContextRuleId rulesSnapshot selectedSigners contextType)

end SmartAccountKit
