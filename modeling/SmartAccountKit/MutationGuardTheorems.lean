import SmartAccountKit.Lib.Lists
import SmartAccountKit.MutationGuard
import SmartAccountKit.Xdr.Structure

/-!
# Theorems about the guard on wallet mutations

What the guard finds in an authorization tree, and what an entry that passes it
can contain.
-/

namespace SmartAccountKit
open Lib

/-! ## Calls of a contract -/

/-- Whether a node calls a function of the contract that `names` lists. -/
def callsContract (contractId : String) (names : List String)
    (invocation : SorobanAuthorizedInvocation) : Bool :=
  match invocation.function with
  | .contractFn args =>
    args.contractAddress.toStrkey == some contractId && names.contains (utf8Decode args.functionName)
  | _ => false

/-- Whether a node is a wallet mutation. -/
def isWalletMutation (contractId : String) (invocation : SorobanAuthorizedInvocation) : Bool :=
  callsContract contractId WALLET_MUTATION_FUNCTIONS invocation

theorem callsContract_contractFn {contractId : String} {names : List String}
    {invocation : SorobanAuthorizedInvocation} {args : InvokeContractArgs}
    (h : invocation.function = .contractFn args) :
    callsContract contractId names invocation = true ↔
      args.contractAddress.toStrkey = some contractId ∧ utf8Decode args.functionName ∈ names := by
  rw [callsContract, h]
  simp

/-! ## What the walk finds -/

/-- The list `ms` holds the mutations among the nodes `is`, none above the depth `depth`. -/
structure FoundIn (contractId : String) (depth : ℕ) (is : List SorobanAuthorizedInvocation)
    (ms : List WalletMutation) : Prop where
  invocations : ms.map (·.invocation) = is.filter (isWalletMutation contractId)
  names : ∀ m ∈ ms, m.name = utf8Decode m.args.functionName
  depths : ∀ m ∈ ms, depth ≤ m.depth

theorem FoundIn.append {contractId : String} {d : ℕ} {is js : List SorobanAuthorizedInvocation}
    {ms ns : List WalletMutation} (hms : FoundIn contractId d is ms)
    (hns : FoundIn contractId d js ns) : FoundIn contractId d (is ++ js) (ms ++ ns) where
  invocations := by rw [List.map_append, List.filter_append, hms.invocations, hns.invocations]
  names m hm := (List.mem_append.mp hm).elim (hms.names m) (hns.names m)
  depths m hm := (List.mem_append.mp hm).elim (hms.depths m) (hns.depths m)

theorem FoundIn.mono {contractId : String} {d d' : ℕ} {is : List SorobanAuthorizedInvocation}
    {ms : List WalletMutation} (h : FoundIn contractId d' is ms) (hd : d ≤ d') :
    FoundIn contractId d is ms :=
  ⟨h.invocations, h.names, fun m hm => hd.trans (h.depths m hm)⟩

/-- Visiting a node finds the node itself if it is a mutation. -/
theorem visit_found {contractId : String} {d : ℕ} {i : SorobanAuthorizedInvocation}
    {ms : List WalletMutation} (h : visit contractId d i = .ok ms) :
    FoundIn contractId d [i] ms := by
  have hnone : isWalletMutation contractId i = false → FoundIn contractId d [i] [] := fun hi =>
    ⟨by simp [hi], by simp, by simp⟩
  unfold visit at h
  split at h
  · rename_i args hcall
    obtain ⟨target, htarget, hms⟩ := except_bind_eq_ok.mp h
    rw [scAddressToString_eq_ok] at htarget
    dsimp only at hms
    split_ifs at hms with hmut
    · obtain ⟨rfl, hname⟩ := hmut
      rw [← except_pure_eq_ok.mp hms]
      have hi : isWalletMutation target i = true :=
        (callsContract_contractFn hcall).mpr ⟨htarget, hname⟩
      exact ⟨by simp [hi], by simp, by simp⟩
    · rw [← except_pure_eq_ok.mp hms]
      refine hnone (Bool.eq_false_iff.mpr fun hi => hmut ?_)
      obtain ⟨haddress, hname⟩ := (callsContract_contractFn hcall).mp hi
      rw [htarget, Option.some.injEq] at haddress
      exact ⟨haddress, hname⟩
  · rename_i hcall
    rw [← Except.ok.inj h]
    refine hnone ?_
    unfold isWalletMutation callsContract
    split
    · exact absurd ‹_› (hcall _)
    · rfl

theorem walk_eq_ok {contractId : String} {d : ℕ} {i : SorobanAuthorizedInvocation}
    {ms : List WalletMutation} : walk contractId d i = .ok ms ↔
      ∃ own, visit contractId d i = .ok own ∧
        ∃ below, walkAll contractId (d + 1) i.subInvocations = .ok below ∧ own ++ below = ms := by
  cases i
  simp only [walk, except_bind_eq_ok, except_pure_eq_ok,
    SorobanAuthorizedInvocation.subInvocations]

mutual

theorem walk_found {contractId : String} : ∀ {d : ℕ} {i : SorobanAuthorizedInvocation}
    {ms : List WalletMutation}, walk contractId d i = .ok ms → FoundIn contractId d i.nodes ms
  | d, .node function subs, ms, h => by
    obtain ⟨own, hown, below, hbelow, rfl⟩ := walk_eq_ok.mp h
    exact (visit_found hown).append ((walkAll_found hbelow).mono (Nat.le_succ d))

theorem walkAll_found {contractId : String} : ∀ {d : ℕ} {is : List SorobanAuthorizedInvocation}
    {ms : List WalletMutation}, walkAll contractId d is = .ok ms →
      FoundIn contractId d (SorobanAuthorizedInvocation.nodesOfAll is) ms
  | d, [], ms, h => by
    rw [← Except.ok.inj h]
    exact ⟨rfl, by simp, by simp⟩
  | d, i :: is, ms, h => by
    simp only [walkAll, except_bind_eq_ok, except_pure_eq_ok] at h
    obtain ⟨first, hfirst, rest, hrest, rfl⟩ := h
    exact (walk_found hfirst).append (walkAll_found hrest)

end

/-- A mutation found at depth 0 is the root. -/
theorem walk_root {contractId : String} {i : SorobanAuthorizedInvocation} {m : WalletMutation}
    {ms : List WalletMutation} (h : walk contractId 0 i = .ok ms) (hm : m ∈ ms)
    (hdepth : m.depth = 0) : m.invocation = i := by
  obtain ⟨own, hown, below, hbelow, rfl⟩ := walk_eq_ok.mp h
  rcases List.mem_append.mp hm with hm | hm
  · have hmem : m.invocation ∈ [i].filter (isWalletMutation contractId) := by
      rw [← (visit_found hown).invocations]
      exact List.mem_map_of_mem hm
    simpa using (List.mem_filter.mp hmem).1
  · have := (walkAll_found hbelow).depths m hm
    omega

/-! ## Signers and upgrades -/

/-- A value that a call carries as a signer to add. -/
inductive CarriesSigner (args : InvokeContractArgs) (value : ScVal) : Prop where
  | addSigner (hname : utf8Decode args.functionName = "add_signer")
      (hvalue : args.args[1]? = some value)
  | batchAddSigner (items : List ScVal) (hname : utf8Decode args.functionName = "batch_add_signer")
      (hitems : args.args[1]? = some (.vec (some items))) (hvalue : value ∈ items)
  | addContextRule (items : List ScVal)
      (hname : utf8Decode args.functionName = "add_context_rule")
      (hitems : args.args[3]? = some (.vec (some items))) (hvalue : value ∈ items)

/-- A signer value that parses as a signer valid for the wallet. -/
def AcceptedSigner (contractId : String) (value : ScVal) : Prop :=
  ∃ signer, parseSignerScVal value = .ok signer ∧ SignerValid (some contractId) signer

theorem assertSignerValid_eq_ok {contractId : String} {value : ScVal} :
    assertSignerValid contractId value = .ok () ↔ AcceptedSigner contractId value := by
  simp only [assertSignerValid, except_bind_eq_ok, validateSigner_eq_ok, AcceptedSigner]

/-- The check on a signer argument accepts every signer in it. -/
theorem signerValues_accepted {list : Bool} {value : ScVal} {contractId : String}
    (h : (signerValues list value >>= fun signers =>
      signers.forM (assertSignerValid contractId)) = .ok ()) :
    ∀ v, (if list then ∃ items, value = .vec (some items) ∧ v ∈ items else v = value) →
      AcceptedSigner contractId v := by
  obtain ⟨signers, hsigners, hall⟩ := except_bind_eq_ok.mp h
  rw [forM_eq_ok] at hall
  intro v hv
  rw [← assertSignerValid_eq_ok]
  apply hall
  cases list with
  | false =>
    rw [if_neg (by decide)] at hv
    rw [← Except.ok.inj hsigners, hv]
    exact List.mem_singleton_self value
  | true =>
    obtain ⟨items, rfl, hmem⟩ := hv
    rw [← Except.ok.inj hsigners]
    exact hmem

/-- A call whose added signers pass the check carries only accepted signers. -/
theorem assertAddedSignersValid_accepted {args : InvokeContractArgs} {contractId : String}
    (h : assertAddedSignersValid args contractId = .ok ()) {v : ScVal}
    (hv : CarriesSigner args v) : AcceptedSigner contractId v := by
  have hlookup : ∀ name index list, utf8Decode args.functionName = name →
      SIGNER_ARGUMENTS.lookup name = some (index, list) → ∀ value, args.args[index]? = some value →
      (signerValues list value >>= fun signers =>
        signers.forM (assertSignerValid contractId)) = .ok () := by
    intro name index list hname hentry value hvalue
    rw [assertAddedSignersValid, hname, hentry] at h
    simpa only [hvalue] using h
  cases hv with
  | addSigner hname hvalue =>
    exact signerValues_accepted (hlookup _ 1 false hname (by decide) v hvalue) v rfl
  | batchAddSigner items hname hitems hmem =>
    exact signerValues_accepted (hlookup _ 1 true hname (by decide) _ hitems) v ⟨items, rfl, hmem⟩
  | addContextRule items hname hitems hmem =>
    exact signerValues_accepted (hlookup _ 3 true hname (by decide) _ hitems) v ⟨items, rfl, hmem⟩

/-- The code an upgrade may put on a wallet: an accepted 32-byte hash with a digest scheme. -/
def AcceptedUpgradeTarget (policy : UpgradeTargetPolicy) (target : Bytes) : Prop :=
  target.length = 32 ∧ toHex target ∈ policy.acceptedWasmHashes ∧
    (policy.authDigestSchemes.lookup (toHex target)).isSome

theorem assertUpgradeTarget_accepted {policy : UpgradeTargetPolicy} {target target' : Bytes}
    (h : assertUpgradeTarget policy target = .ok target') :
    AcceptedUpgradeTarget policy target := by
  simp only [assertUpgradeTarget, assertKnownAuthDigestScheme, toHex_map_toLower,
    throwIf_bind_eq_ok, not_not] at h
  obtain ⟨hlength, haccepted, hscheme, -⟩ := h
  exact ⟨hlength, haccepted, Option.isSome_iff_ne_none.mpr (by simpa using hscheme)⟩

/-- The arguments of an upgrade that the guard accepts: an accepted target, and the wallet itself
as the operator. -/
def AcceptedUpgrade (args : InvokeContractArgs) (contractId : String)
    (upgradeTargetPolicy : Option UpgradeTargetPolicy) : Prop :=
  ∃ policy target operator, upgradeTargetPolicy = some policy ∧
    args.args[0]? = some (.bytes target) ∧ AcceptedUpgradeTarget policy target ∧
    args.args[1]? = some (.address operator) ∧ operator.toStrkey = some contractId

theorem assertUpgradeIntent_accepted {args : InvokeContractArgs} {contractId : String}
    {upgradeTargetPolicy : Option UpgradeTargetPolicy} {fail : String → JsError}
    (h : assertUpgradeIntent args contractId upgradeTargetPolicy fail = .ok ()) :
    AcceptedUpgrade args contractId upgradeTargetPolicy := by
  unfold assertUpgradeIntent at h
  split at h
  · rename_i target htarget
    split at h
    · exact nomatch h
    · rename_i policy
      obtain ⟨_, haccepted, hoperator⟩ := except_bind_eq_ok.mp h
      dsimp only at hoperator
      split at hoperator
      · rename_i operator harg
        obtain ⟨text, htext, hcheck⟩ := except_bind_eq_ok.mp hoperator
        rw [scAddressToString_eq_ok] at htext
        rw [not_not.mp (throwIf_eq_ok.mp hcheck)] at htext
        exact ⟨policy, target, operator, rfl, htarget, assertUpgradeTarget_accepted haccepted,
          harg, htext⟩
      · exact nomatch hoperator
  · exact nomatch h

/-! ## Soundness -/

/-- The one mutation that an admin path may sign: the root of its tree and no other node, equal
to the transaction, with accepted signers and an accepted upgrade. -/
structure AdminIntent (contractId : String) (hostFunction : Option HostFunction)
    (upgradeTargetPolicy : Option UpgradeTargetPolicy) (root : SorobanAuthorizedInvocation)
    (args : InvokeContractArgs) : Prop where
  isCall : root.function = .contractFn args
  rootMutation : isWalletMutation contractId root = true
  noneBelow : ∀ n ∈ SorobanAuthorizedInvocation.nodesOfAll root.subInvocations,
    isWalletMutation contractId n = false
  transaction : ∃ transactionArgs, hostFunction = some (.invokeContract transactionArgs) ∧
    args.toXDR = transactionArgs.toXDR
  signers : ∀ value, CarriesSigner args value → AcceptedSigner contractId value
  upgrade : utf8Decode args.functionName = "upgrade" →
    AcceptedUpgrade args contractId upgradeTargetPolicy

theorem SorobanAuthorizedInvocation.nodes_eq (i : SorobanAuthorizedInvocation) :
    i.nodes = i :: nodesOfAll i.subInvocations := by
  cases i
  rfl

/-- If the nodes with a property are the root alone, the root has it and no node below does. -/
theorem only_root_of_filter {p : SorobanAuthorizedInvocation → Bool}
    {i : SorobanAuthorizedInvocation} (h : i.nodes.filter p = [i]) :
    p i = true ∧ ∀ n ∈ SorobanAuthorizedInvocation.nodesOfAll i.subInvocations, p n = false := by
  have hroot : p i = true := by
    have hmem : i ∈ i.nodes.filter p := by rw [h]; exact List.mem_singleton_self i
    exact (List.mem_filter.mp hmem).2
  rw [SorobanAuthorizedInvocation.nodes_eq, List.filter_cons_of_pos hroot, List.cons.injEq,
    List.filter_eq_nil_iff] at h
  exact ⟨hroot, fun n hn => Bool.eq_false_iff.mpr (h.2 n hn)⟩

/-- What the check of a non-empty list of mutations accepts. -/
theorem assertMutations_cons_eq_ok {root : WalletMutation} {others : List WalletMutation}
    {contractId : String} {hostFunction : Option HostFunction}
    {upgradeTargetPolicy : Option UpgradeTargetPolicy}
    (h : assertMutations (root :: others) contractId hostFunction upgradeTargetPolicy = .ok ()) :
    others = [] ∧ root.depth = 0 ∧
      (∃ transactionArgs, hostFunction = some (.invokeContract transactionArgs) ∧
        root.args.toXDR = transactionArgs.toXDR) ∧
      (∀ value, CarriesSigner root.args value → AcceptedSigner contractId value) ∧
      (root.name = "upgrade" → AcceptedUpgrade root.args contractId upgradeTargetPolicy) := by
  unfold assertMutations at h
  cases hostFunction with
  | none => exact nomatch h
  | some adminHostFunction =>
    dsimp only at h
    by_cases hnested : others.length ≠ 0 ∨ root.depth ≠ 0
    · rw [if_pos hnested] at h
      exact nomatch h
    rw [if_neg hnested] at h
    rw [not_or, not_not, not_not, List.length_eq_zero_iff] at hnested
    cases adminHostFunction with
    | invokeContract transactionArgs =>
      obtain ⟨hsame, hrest⟩ := throwIf_bind_eq_ok.mp h
      obtain ⟨_, hsigners, hupgrade⟩ := except_bind_eq_ok.mp hrest
      refine ⟨hnested.1, hnested.2, ⟨transactionArgs, rfl, not_not.mp hsame⟩,
        fun value => assertAddedSignersValid_accepted hsigners, fun hname => ?_⟩
      rw [if_pos hname] at hupgrade
      exact assertUpgradeIntent_accepted hupgrade
    | _ => exact nomatch h

/-- An entry that passes the guard holds no wallet mutation, or only the one that an admin path
may sign. -/
theorem assertWalletMutationIntent_sound {entry : SorobanAuthorizationEntry} {contractId : String}
    {hostFunction : Option HostFunction} {upgradeTargetPolicy : Option UpgradeTargetPolicy}
    (h : assertWalletMutationIntent entry contractId hostFunction upgradeTargetPolicy = .ok ()) :
    (∀ n ∈ entry.rootInvocation.nodes, isWalletMutation contractId n = false) ∨
      ∃ args, AdminIntent contractId hostFunction upgradeTargetPolicy entry.rootInvocation args := by
  obtain ⟨ms, hwalk, hcheck⟩ := except_bind_eq_ok.mp h
  have hfound := walk_found hwalk
  cases ms with
  | nil =>
    left
    intro n hn
    have hnone := (List.filter_eq_nil_iff.mp hfound.invocations.symm) n hn
    exact Bool.eq_false_iff.mpr hnone
  | cons root others =>
    right
    obtain ⟨rfl, hdepth, htransaction, hsigners, hupgrade⟩ := assertMutations_cons_eq_ok hcheck
    have hroot : root.invocation = entry.rootInvocation :=
      walk_root hwalk List.mem_cons_self hdepth
    have hfilter := hfound.invocations.symm
    rw [List.map_singleton, hroot] at hfilter
    obtain ⟨hmutation, hbelow⟩ := only_root_of_filter hfilter
    exact ⟨root.args, by rw [← hroot]; exact root.isCall, hmutation, hbelow, htransaction,
      hsigners, fun hname => hupgrade ((hfound.names root List.mem_cons_self).trans hname)⟩

/-- A call that adds a delegated signer to the sample wallet. -/
def sampleAddSignerArgs : InvokeContractArgs :=
  { contractAddress := sampleContract 7
    functionName := utf8Encode "add_signer"
    args := [.u32 0, .vec (some [scvSymbol "Delegated", .address (sampleAccount 3)])] }

/-- The admin path accepts an entry whose root adds a delegated account. -/
theorem assertWalletMutationIntent_sound_addSigner :
    (∀ n ∈ (SorobanAuthorizedInvocation.node (.contractFn sampleAddSignerArgs) []).nodes,
        isWalletMutation (sampleContractId 7) n = false) ∨
      ∃ args, AdminIntent (sampleContractId 7)
        (some (.invokeContract sampleAddSignerArgs)) none
        (.node (.contractFn sampleAddSignerArgs) []) args :=
  @assertWalletMutationIntent_sound
    { sampleEntry with rootInvocation := .node (.contractFn sampleAddSignerArgs) [] } _ _ _
    (by set_option maxRecDepth 20000 in decide)

end SmartAccountKit
