import SmartAccountKit.Kit
import SmartAccountKit.Lib.Comparator

/-!
# Finding the context rules of a wallet

The contract has no iterator over its rules. The ids of the active rules come
from an indexer and, where it is enabled, from probing low ids on-chain.
-/

namespace SmartAccountKit
open Lib

def DEFAULT_MAX_PROBED_RULE_ID : ℕ := 8

def DEFAULT_MAX_CONSECUTIVE_PROBE_MISSES : ℕ := 3

/-! ## Probing -/

/-- The state of a probe: the rules read so far, the last one first, the misses since the last
hit, and whether the probe has given up. -/
structure RuleProbe where
  probedRules : List ContextRule
  misses : ℕ
  stopped : Bool

def RuleProbe.start : RuleProbe := { probedRules := [], misses := 0, stopped := false }

/-- Count the outcome of one read. Any failure of a read is a miss. -/
def RuleProbe.record (probe : RuleProbe) (maxConsecutiveMisses : ℕ) :
    Except JsError ContextRule → RuleProbe
  | .ok rule => { probe with probedRules := rule :: probe.probedRules, misses := 0 }
  | .error _ =>
    { probe with
      misses := probe.misses + 1
      stopped := maxConsecutiveMisses ≤ probe.misses + 1 }

/-- Read one id, unless the probe has given up. -/
def probeContextRule (maxConsecutiveMisses : ℕ) (probe : RuleProbe) (contextRuleId : ℕ) :
    KitProgram RuleProbe :=
  if probe.stopped then return probe
  else do
    let read ← Program.attempt (readContextRule (.ofNat contextRuleId))
    return probe.record maxConsecutiveMisses read

/-- Read the rules with the ids `0` to `maxRuleId`, until too many reads in a row fail. -/
def probeContextRules (probeConfig : ProbeRuleIds) : KitProgram (List ContextRule) := do
  let maxRuleId := probeConfig.maxRuleId.getD DEFAULT_MAX_PROBED_RULE_ID
  let maxConsecutiveMisses :=
    probeConfig.maxConsecutiveMisses.getD DEFAULT_MAX_CONSECUTIVE_PROBE_MISSES
  let probe ← Program.forEach (List.range (maxRuleId + 1)) RuleProbe.start
    (probeContextRule maxConsecutiveMisses)
  return probe.probedRules

/-! ## Listing -/

/-- Ask the indexer for rule ids. While probing is enabled it may fail. -/
def readIndexedRuleIds (contractId : String) (probeConfig : Option ProbeRuleIds) :
    KitProgram (Option (List UInt32)) := do
  let details ← Program.attempt (Program.await (.getContractDetailsFromIndexer contractId) id)
  match details with
  | .ok details => return details
  | .error error =>
    if probeConfig.isNone then Program.throw error else return none

/-- Compare two numbers by their difference. -/
def compareIds (a b : UInt32) : ℤ := (a.toNat : ℤ) - (b.toNat : ℤ)

/-- Compare two rules by their ids. -/
def compareRules (a b : ContextRule) : ℤ := compareIds a.id b.id

/-- The ids found by the indexer and the probe, each once and in order. -/
def discoveredRuleIds (details : Option (List UInt32)) (probedRules : List ContextRule) :
    List UInt32 :=
  sortBy compareIds (details.getD [] ++ probedRules.map (·.id)).dedup

/-- Read a rule that was found; a rule that the probe has read is not read again, and one that is
missing by now is left out. -/
def readDiscoveredRule (probedRules : List ContextRule) (contextRuleId : UInt32) :
    KitProgram (Option ContextRule) :=
  match probedRules.find? fun rule => rule.id == contextRuleId with
  | some cached => return some cached
  | none => do
    let read ← Program.attempt (readContextRule (.ofU32 contextRuleId))
    match read with
    | .ok rule => return some rule
    | .error error => if isMissingContextRuleError error then return none else Program.throw error

/-- Whether a rule has not expired. -/
def ContextRule.activeAt (latestLedger : UInt32) (rule : ContextRule) : Bool :=
  rule.validUntil.all fun validUntil => latestLedger ≤ validUntil

/-- The rules that are there and active, by their ids. -/
def activeRules (latestLedger : UInt32) (rules : List (Option ContextRule)) : List ContextRule :=
  sortBy compareRules ((rules.filterMap id).filter (ContextRule.activeAt latestLedger))

/-- The error when nothing can tell which rules there are. -/
def noRuleDiscovery : JsError := JsError.plain
  ("Listing active context rules requires an indexer or an enabled on-chain probe that can " ++
    "discover a rule ID; the contract does not expose an iterator for active rule IDs.")

/-- List the active rules of a contract. -/
def listContextRules (contractId : String) (probeConfig : Option ProbeRuleIds) :
    KitProgram (List ContextRule) := do
  let details ← readIndexedRuleIds contractId probeConfig
  let probedRules ← probeConfig.elim (return []) probeContextRules
  let contextRuleIds := discoveredRuleIds details probedRules
  if contextRuleIds.isEmpty then
    if details.isSome then return [] else Program.throw noRuleDiscovery
  else do
    let rules ← Program.collectAll contextRuleIds (readDiscoveredRule probedRules)
    let latestLedger ← Program.await .getLatestLedger id
    return activeRules latestLedger rules

/-! ## The rules of a credential -/

/-- The one signer that has a credential id. -/
def findWebAuthnSignerForCredential (credentialId : String) (rules : List ContextRule) :
    Except JsError Signer :=
  let matchingSigners := collectUniqueSigners (rules.flatMap fun rule =>
    rule.signers.filter fun signer => getCredentialIdFromSigner signer == some credentialId)
  match matchingSigners with
  | [signer] => .ok signer
  | [] => .error (JsError.plain ("No WebAuthn signer found for credential ID " ++ credentialId))
  | _ => .error (JsError.plain
      ("Multiple WebAuthn signers matched credential ID " ++ credentialId ++
        ". Resolve the signer explicitly."))

/-- The rule ids for an entry that the connected credential signs. -/
def resolveConnectedContextRuleIds (config : KitConfig) (entry : SorobanAuthorizationEntry)
    (credentialIdOverride : Option String) : KitProgram (List JsNumber) :=
  match nonEmptyText (credentialIdOverride.or config.credentialId) with
  | none => Program.throw (JsError.walletNotConnected (some "resolve context rule IDs"))
  | some credentialId => do
    let contractId ← Program.ofExcept config.requireWallet
    let rules ← listContextRules contractId config.probeRuleIds
    let signer ← Program.ofExcept (findWebAuthnSignerForCredential credentialId rules)
    Program.ofExcept (resolveContextRuleIdsForEntry entry [signer] rules)

end SmartAccountKit
