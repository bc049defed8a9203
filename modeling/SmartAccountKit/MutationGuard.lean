import SmartAccountKit.AuthDigest

/-!
# The guard on wallet mutations

The generic signing paths refuse an authorization tree that calls a function
of the wallet which changes its authority or executes its actions. A dedicated
admin path signs one such call, when it is the transaction itself.
-/

namespace SmartAccountKit
open Lib

/-- Functions of a smart account that can change authority or execute wallet actions. -/
def WALLET_MUTATION_FUNCTIONS : List String :=
  ["execute", "upgrade", "add_policy", "remove_policy", "add_signer", "remove_signer",
    "add_context_rule", "remove_context_rule", "batch_add_signer", "update_context_rule_name",
    "update_context_rule_valid_until"]

/-- A mutation found in an authorization tree: a contract call, its depth and its name. -/
structure WalletMutation where
  invocation : SorobanAuthorizedInvocation
  args : InvokeContractArgs
  isCall : invocation.function = .contractFn args
  depth : ℕ
  name : String

/-! ## Finding the mutations -/

/-- The mutation that one node is, if it is one. -/
def visit (contractId : String) (depth : ℕ) (invocation : SorobanAuthorizedInvocation) :
    Except JsError (List WalletMutation) :=
  match isCall : invocation.function with
  | .contractFn args => do
    let target ← scAddressToString args.contractAddress "Authorized invocation target"
    let name := utf8Decode args.functionName
    if target = contractId ∧ name ∈ WALLET_MUTATION_FUNCTIONS then
      return [{ invocation, args, isCall, depth, name }]
    else return []
  | _ => .ok []

mutual

/-- The mutations in a tree whose root stands at a depth. -/
def walk (contractId : String) (depth : ℕ) :
    SorobanAuthorizedInvocation → Except JsError (List WalletMutation)
  | .node function subs => do
    let own ← visit contractId depth (.node function subs)
    let below ← walkAll contractId (depth + 1) subs
    return own ++ below

/-- The mutations in a list of trees whose roots stand at a depth. -/
def walkAll (contractId : String) (depth : ℕ) :
    List SorobanAuthorizedInvocation → Except JsError (List WalletMutation)
  | [] => .ok []
  | child :: children => do
    let first ← walk contractId depth child
    let rest ← walkAll contractId depth children
    return first ++ rest

end

/-! ## The guard -/

/-- Where each signer-adding wallet function takes its signers, and whether as a list. -/
def SIGNER_ARGUMENTS : List (String × ℕ × Bool) :=
  [("add_signer", 1, false), ("batch_add_signer", 1, true), ("add_context_rule", 3, true)]

/-- The error for reading the `vec` arm of a value that has another arm. -/
def vecNotSet : JsError := JsError.plain "vec not set"

/-- The values in a signer argument: the items of a list, or the value itself. -/
def signerValues (list : Bool) (value : ScVal) : Except JsError (List ScVal) :=
  if list then
    match value with
    | .vec _ => .ok value.vecItems
    | _ => .error vecNotSet
  else .ok [value]

/-- Check one signer that a mutation adds. -/
def assertSignerValid (contractId : String) (value : ScVal) : Except JsError Unit := do
  validateSigner (← parseSignerScVal value) (some contractId)

/-- Check the signers that a mutation adds. -/
def assertAddedSignersValid (args : InvokeContractArgs) (contractId : String) :
    Except JsError Unit :=
  match SIGNER_ARGUMENTS.lookup (utf8Decode args.functionName) with
  | none => .ok ()
  | some (index, list) =>
    match args.args[index]? with
    | none => .ok ()
    | some value => do
      let signers ← signerValues list value
      signers.forM (assertSignerValid contractId)

/-- Check the arguments of an upgrade. `fail` gives the error of a message. -/
def assertUpgradeIntent (args : InvokeContractArgs) (contractId : String)
    (upgradeTargetPolicy : Option UpgradeTargetPolicy) (fail : String → JsError) :
    Except JsError Unit :=
  match (args.args[0]? : Option ScVal) with
  | some (.bytes target) =>
    match upgradeTargetPolicy with
    | none => .error (fail "The admin signing path requires an upgrade target policy.")
    | some policy => do
      let _ ← assertUpgradeTarget policy target
      let operatorMismatch :=
        fail "The upgrade operator must be the wallet itself, as kit.upgrade() sets it."
      match (args.args[1]? : Option ScVal) with
      | some (.address operator) =>
        let operator ← scAddressToString operator "Upgrade operator"
        throwIf (operator ≠ contractId) operatorMismatch
      | _ => throw operatorMismatch
  | _ => .error (fail "The upgrade target must be a 32-byte WASM hash.")

/-- Check the mutations found in a tree against the transaction of the admin path. -/
def assertMutations (mutations : List WalletMutation) (contractId : String)
    (hostFunction : Option HostFunction) (upgradeTargetPolicy : Option UpgradeTargetPolicy) :
    Except JsError Unit :=
  let fail := fun message => JsError.validation message .INVALID_INPUT
    [("contractId", .text contractId), ("functions", .texts (mutations.map (·.name)))]
  match mutations with
  | [] => .ok ()
  | root :: others =>
    match hostFunction with
    | none => .error (fail
        ("Refusing a smart-account mutation on a generic signing path. " ++
          "Use the dedicated admin signing method."))
    | some adminHostFunction =>
      if others.length ≠ 0 ∨ root.depth ≠ 0 then
        .error (fail
          "Refusing nested or multiple smart-account mutations in one authorization tree.")
      else
        match adminHostFunction with
        | .invokeContract transactionArgs => do
          throwIf (root.args.toXDR ≠ transactionArgs.toXDR)
            (fail "The admin authorization root does not match the transaction host function.")
          assertAddedSignersValid root.args contractId
          if root.name = "upgrade" then
            assertUpgradeIntent root.args contractId upgradeTargetPolicy fail
        | _ => .error (fail
            "The admin authorization root does not match an invokeContract transaction.")

/-- Refuse wallet mutations, except the one root mutation that is the transaction itself. -/
def assertWalletMutationIntent (entry : SorobanAuthorizationEntry) (contractId : String)
    (hostFunction : Option HostFunction) (upgradeTargetPolicy : Option UpgradeTargetPolicy) :
    Except JsError Unit := do
  let mutations ← walk contractId 0 entry.rootInvocation
  assertMutations mutations contractId hostFunction upgradeTargetPolicy

/-- The guard looks at the invocation tree only. -/
theorem assertWalletMutationIntent_congr {entry entry' : SorobanAuthorizationEntry}
    (h : entry'.rootInvocation = entry.rootInvocation) (contractId : String)
    (hostFunction : Option HostFunction) (upgradeTargetPolicy : Option UpgradeTargetPolicy) :
    assertWalletMutationIntent entry' contractId hostFunction upgradeTargetPolicy =
      assertWalletMutationIntent entry contractId hostFunction upgradeTargetPolicy := by
  rw [assertWalletMutationIntent, assertWalletMutationIntent, h]

end SmartAccountKit
