import SmartAccountKit.ContextRulesTheorems
import SmartAccountKit.Requests

/-!
# Keys of contexts

A rule fits a context if their keys are one text. The keys of two contexts are
compared with what the authorized functions behind them call or create.
-/

namespace SmartAccountKit
open Lib

/-! ## Targets -/

/-- What an authorized function calls, or creates a contract from. -/
inductive ContextTarget where
  | call (contract : ScAddress)
  | create (wasmHash : BytesN 32)
  | createRef (owner : ScAddress) (tag : Bytes)

/-- An executable of the network's asset contract is no target. -/
def executableTarget : ContractExecutable → Option ContextTarget
  | .wasm wasmHash => some (.create wasmHash)
  | .externalRef owner tag => some (.createRef owner tag)
  | .stellarAsset => none

def contextTarget : SorobanAuthorizedFunction → Option ContextTarget
  | .contractFn args => some (.call args.contractAddress)
  | .createContractHostFn args => executableTarget args.executable
  | .createContractV2HostFn args => executableTarget args.executable

/-- The context that stands for a target. -/
def ContextTarget.IsContext : ContextTarget → ContextRuleType → Prop
  | call contract, context =>
    ∃ address, contract.toStrkey = some address ∧ context = .callContract address
  | create wasmHash, context => context = .createContract wasmHash.1
  | createRef owner tag, context => ∃ address, owner.toStrkey = some address ∧
    context = .createContractExternalRef address (utf8Decode tag)

/-- Two functions call one contract, create from one WASM hash, or create from one reference. -/
inductive SameTarget (f g : SorobanAuthorizedFunction) : Prop where
  | call (contract : ScAddress) (hf : contextTarget f = some (.call contract))
      (hg : contextTarget g = some (.call contract))
  | create (wasmHash : BytesN 32) (hf : contextTarget f = some (.create wasmHash))
      (hg : contextTarget g = some (.create wasmHash))
  | createRef (owner : ScAddress) (tag : Bytes)
      (hf : contextTarget f = some (.createRef owner tag))
      (hg : contextTarget g = some (.createRef owner tag))

/-- Two functions create from references of one owner, whose tags are different byte strings that
decode to one text. -/
def TagsCollide (f g : SorobanAuthorizedFunction) : Prop :=
  ∃ owner tag tag', contextTarget f = some (.createRef owner tag) ∧
    contextTarget g = some (.createRef owner tag') ∧ tag ≠ tag' ∧ utf8Decode tag = utf8Decode tag'

/-- A context of an entry, and the function of the entry that it was derived from. -/
def DerivedContext (entry : SorobanAuthorizationEntry) (f : SorobanAuthorizedFunction)
    (context : ContextRuleType) : Prop :=
  ∃ (contexts : List ContextRuleType) (i : ℕ), buildInvocationContextTypes entry = .ok contexts ∧
    (entry.rootInvocation.nodes.map (·.function))[i]? = some f ∧ contexts[i]? = some context

theorem sameTarget_iff {f g : SorobanAuthorizedFunction} {target target' : ContextTarget}
    (hf : contextTarget f = some target) (hg : contextTarget g = some target') :
    SameTarget f g ↔ target = target' := by
  constructor
  · intro h
    cases h with
    | call contract hf' hg' =>
      exact Option.some.inj ((hf.symm.trans hf').trans (hg'.symm.trans hg))
    | create wasmHash hf' hg' =>
      exact Option.some.inj ((hf.symm.trans hf').trans (hg'.symm.trans hg))
    | createRef owner tag hf' hg' =>
      exact Option.some.inj ((hf.symm.trans hf').trans (hg'.symm.trans hg))
  · rintro rfl
    cases target with
    | call contract => exact .call contract hf hg
    | create wasmHash => exact .create wasmHash hf hg
    | createRef owner tag => exact .createRef owner tag hf hg

/-! ## Contexts -/

theorem extractCreateContractContextType_isContext {executable : ContractExecutable}
    {context : ContextRuleType} (h : extractCreateContractContextType executable = .ok context) :
    ∃ target, executableTarget executable = some target ∧ target.IsContext context := by
  cases executable with
  | wasm wasmHash => exact ⟨.create wasmHash, rfl, (Except.ok.inj h).symm⟩
  | stellarAsset => cases h
  | externalRef owner tag =>
    obtain ⟨address, haddress, hcontext⟩ := except_bind_eq_ok.mp h
    exact ⟨.createRef owner tag, rfl, address, scAddressToString_eq_ok.mp haddress,
      (Except.ok.inj hcontext).symm⟩

theorem invocationContextType_isContext {invocation : SorobanAuthorizedInvocation}
    {context : ContextRuleType} (h : invocationContextType invocation = .ok context) :
    ∃ target, contextTarget invocation.function = some target ∧ target.IsContext context := by
  unfold invocationContextType at h
  cases hfunction : invocation.function with
  | contractFn args =>
    rw [hfunction] at h
    obtain ⟨address, haddress, hcontext⟩ := except_bind_eq_ok.mp h
    exact ⟨.call args.contractAddress, rfl, address, scAddressToString_eq_ok.mp haddress,
      (Except.ok.inj hcontext).symm⟩
  | createContractHostFn args =>
    rw [hfunction] at h
    exact extractCreateContractContextType_isContext h
  | createContractV2HostFn args =>
    rw [hfunction] at h
    exact extractCreateContractContextType_isContext h

theorem DerivedContext.isContext {entry : SorobanAuthorizationEntry}
    {f : SorobanAuthorizedFunction} {context : ContextRuleType}
    (h : DerivedContext entry f context) :
    ∃ target, contextTarget f = some target ∧ target.IsContext context := by
  obtain ⟨contexts, i, hcontexts, hf, hcontext⟩ := h
  rw [List.getElem?_map, Option.map_eq_some_iff] at hf
  obtain ⟨invocation, hinvocation, rfl⟩ := hf
  exact invocationContextType_isContext
    (forall₂_getElem? (buildInvocationContextTypes_eq_ok.mp hcontexts) hinvocation hcontext)

/-! ## Keys -/

/-- A strkey has no colon. -/
theorem colon_notMem_toStrkey {a : ScAddress} {text : String} (h : a.toStrkey = some text) :
    ':' ∉ text.toList := by
  obtain ⟨parts, -, rfl⟩ := Option.map_eq_some_iff.mp h
  have halphabet : ∀ d < 2 ^ 5, base32Alphabet.getD d ' ' ≠ ':' := by decide
  rw [encodeCheck, encodeText, String.toList_ofList]
  intro hcolon
  obtain ⟨d, hd, hchar⟩ := List.mem_map.mp hcolon
  exact halphabet d (packGroups_lt 8 5 _ d hd) hchar

section texts

variable (address : String) (wasmHash : Bytes) (tag : String)

theorem toList_callContract : (contextRuleTypeKey (.callContract address)).toList =
    "CallContract:".toList ++ address.toList := String.toList_append

theorem toList_createContract : (contextRuleTypeKey (.createContract wasmHash)).toList =
    "CreateContract:".toList ++ (toHex wasmHash).toList := String.toList_append

theorem toList_createContractExternalRef :
    (contextRuleTypeKey (.createContractExternalRef address tag)).toList =
      "CreateContractExternalRef:".toList ++ (address.toList ++ ':' :: tag.toList) := by
  show ("CreateContractExternalRef:" ++ address ++ ":" ++ tag).toList = _
  rw [String.toList_append, String.toList_append, String.toList_append, List.append_assoc,
    List.append_assoc]
  rfl

end texts

/-! The first fifteen characters of a key tell what kind of target it has. -/

theorem callContract_ne_createContract {address : String} {wasmHash : Bytes} :
    contextRuleTypeKey (.callContract address) ≠ contextRuleTypeKey (.createContract wasmHash) := by
  intro h
  have hsecond := congrArg (fun key : String => key.toList[1]?) h
  simp only [toList_callContract, toList_createContract] at hsecond
  exact absurd (Option.some.inj hsecond) (by decide)

theorem callContract_ne_createContractExternalRef {address address' tag : String} :
    contextRuleTypeKey (.callContract address) ≠
      contextRuleTypeKey (.createContractExternalRef address' tag) := by
  intro h
  have hsecond := congrArg (fun key : String => key.toList[1]?) h
  simp only [toList_callContract, toList_createContractExternalRef] at hsecond
  exact absurd (Option.some.inj hsecond) (by decide)

theorem createContract_ne_createContractExternalRef {address tag : String} {wasmHash : Bytes} :
    contextRuleTypeKey (.createContract wasmHash) ≠
      contextRuleTypeKey (.createContractExternalRef address tag) := by
  intro h
  have hlast := congrArg (fun key : String => key.toList[14]?) h
  simp only [toList_createContract, toList_createContractExternalRef] at hlast
  exact absurd (Option.some.inj hlast) (by decide)

theorem contextRuleTypeKey_callContract_inj {address address' : String} :
    contextRuleTypeKey (.callContract address) = contextRuleTypeKey (.callContract address') ↔
      address = address' := by
  constructor
  · intro h
    have hlist := congrArg String.toList h
    rw [toList_callContract, toList_callContract] at hlist
    exact String.toList_injective (List.append_cancel_left hlist)
  · rintro rfl
    rfl

theorem contextRuleTypeKey_createContract_inj {wasmHash wasmHash' : Bytes} :
    contextRuleTypeKey (.createContract wasmHash) =
      contextRuleTypeKey (.createContract wasmHash') ↔ wasmHash = wasmHash' := by
  constructor
  · intro h
    have hlist := congrArg String.toList h
    rw [toList_createContract, toList_createContract] at hlist
    exact toHex_inj (String.toList_injective (List.append_cancel_left hlist))
  · rintro rfl
    rfl

theorem contextRuleTypeKey_createContractExternalRef_inj {address address' tag tag' : String}
    (h : ':' ∉ address.toList) (h' : ':' ∉ address'.toList) :
    contextRuleTypeKey (.createContractExternalRef address tag) =
      contextRuleTypeKey (.createContractExternalRef address' tag') ↔
        address = address' ∧ tag = tag' := by
  constructor
  · intro hkey
    have hlist := congrArg String.toList hkey
    rw [toList_createContractExternalRef, toList_createContractExternalRef] at hlist
    obtain ⟨haddress, htag⟩ := append_cons_inj_of_notMem h h'
      (List.append_cancel_left hlist)
    exact ⟨String.toList_injective haddress, String.toList_injective htag⟩
  · rintro ⟨rfl, rfl⟩
    rfl

/-- The keys of two contexts are equal if the targets are, or are references of one owner whose tags
decode to one text. -/
theorem contextRuleTypeKey_eq_iff {target target' : ContextTarget} {c c' : ContextRuleType}
    (h : target.IsContext c) (h' : target'.IsContext c') :
    contextRuleTypeKey c = contextRuleTypeKey c' ↔ target = target' ∨
      ∃ owner tag tag', target = .createRef owner tag ∧ target' = .createRef owner tag' ∧
        utf8Decode tag = utf8Decode tag' := by
  cases target with
  | call contract =>
    obtain ⟨address, haddress, rfl⟩ := h
    cases target' with
    | call contract' =>
      obtain ⟨address', haddress', rfl⟩ := h'
      rw [contextRuleTypeKey_callContract_inj]
      constructor
      · rintro rfl
        exact Or.inl (congrArg _ (ScAddress.toStrkey_inj haddress haddress'))
      · rintro (heq | ⟨_, _, _, hcall, -⟩)
        · rw [ContextTarget.call.inj heq, haddress'] at haddress
          exact (Option.some.inj haddress).symm
        · cases hcall
    | create wasmHash =>
      obtain rfl := h'
      refine iff_of_false callContract_ne_createContract ?_
      rintro (heq | ⟨_, _, _, hcall, -⟩)
      · cases heq
      · cases hcall
    | createRef owner tag =>
      obtain ⟨address', -, rfl⟩ := h'
      refine iff_of_false callContract_ne_createContractExternalRef ?_
      rintro (heq | ⟨_, _, _, hcall, -⟩)
      · cases heq
      · cases hcall
  | create wasmHash =>
    obtain rfl := h
    cases target' with
    | call contract' =>
      obtain ⟨address', -, rfl⟩ := h'
      refine iff_of_false callContract_ne_createContract.symm ?_
      rintro (heq | ⟨_, _, _, hcreate, -⟩)
      · cases heq
      · cases hcreate
    | create wasmHash' =>
      obtain rfl := h'
      rw [contextRuleTypeKey_createContract_inj]
      constructor
      · intro hbytes
        exact Or.inl (congrArg _ (Subtype.ext hbytes))
      · rintro (heq | ⟨_, _, _, hcreate, -⟩)
        · rw [ContextTarget.create.inj heq]
        · cases hcreate
    | createRef owner tag =>
      obtain ⟨address', -, rfl⟩ := h'
      refine iff_of_false createContract_ne_createContractExternalRef ?_
      rintro (heq | ⟨_, _, _, hcreate, -⟩)
      · cases heq
      · cases hcreate
  | createRef owner tag =>
    obtain ⟨address, haddress, rfl⟩ := h
    cases target' with
    | call contract' =>
      obtain ⟨address', -, rfl⟩ := h'
      refine iff_of_false callContract_ne_createContractExternalRef.symm ?_
      rintro (heq | ⟨_, _, _, -, hcall, -⟩)
      · cases heq
      · cases hcall
    | create wasmHash' =>
      obtain rfl := h'
      refine iff_of_false createContract_ne_createContractExternalRef.symm ?_
      rintro (heq | ⟨_, _, _, -, hcreate, -⟩)
      · cases heq
      · cases hcreate
    | createRef owner' tag' =>
      obtain ⟨address', haddress', rfl⟩ := h'
      rw [contextRuleTypeKey_createContractExternalRef_inj (colon_notMem_toStrkey haddress)
        (colon_notMem_toStrkey haddress')]
      constructor
      · rintro ⟨rfl, htag⟩
        obtain rfl := ScAddress.toStrkey_inj haddress haddress'
        exact Or.inr ⟨owner, tag, tag', rfl, rfl, htag⟩
      · intro hsame
        have howner : owner = owner' ∧ utf8Decode tag = utf8Decode tag' := by
          rcases hsame with heq | ⟨_, _, _, href, href', htag⟩
          · injection heq with howner htag
            exact ⟨howner, by rw [htag]⟩
          · injection href with howner htag₁
            injection href' with howner' htag₂
            rw [howner, howner', htag₁, htag₂]
            exact ⟨rfl, htag⟩
        rw [howner.1, haddress'] at haddress
        exact ⟨(Option.some.inj haddress).symm, howner.2⟩

/-- The keys of two derived contexts tell apart what the functions call or create from, except
references of one owner whose tags decode to one text. -/
theorem contextKeys_exact {entry entry' : SorobanAuthorizationEntry}
    {f g : SorobanAuthorizedFunction} {c c' : ContextRuleType} (h : DerivedContext entry f c)
    (h' : DerivedContext entry' g c') :
    (contextRuleTypeKey c = contextRuleTypeKey c' ↔ SameTarget f g) ↔ ¬TagsCollide f g := by
  obtain ⟨target, hf, hcontext⟩ := h.isContext
  obtain ⟨target', hg, hcontext'⟩ := h'.isContext
  rw [contextRuleTypeKey_eq_iff hcontext hcontext', sameTarget_iff hf hg]
  constructor
  · rintro hexact ⟨owner, tag, tag', hf', hg', hne, htext⟩
    obtain rfl := Option.some.inj (hf.symm.trans hf')
    obtain rfl := Option.some.inj (hg.symm.trans hg')
    have hsame := hexact.mp (Or.inr ⟨owner, tag, tag', rfl, rfl, htext⟩)
    exact hne (ContextTarget.createRef.inj hsame).2
  · intro hapart
    refine ⟨?_, Or.inl⟩
    rintro (hsame | ⟨owner, tag, tag', rfl, rfl, htext⟩)
    · exact hsame
    · by_cases htags : tag = tag'
      · rw [htags]
      · exact absurd ⟨owner, tag, tag', hf, hg, htags, htext⟩ hapart

/-! ## Samples -/

/-- The creation of a contract from a reference with a tag. -/
def sampleRefCreation (tag : Bytes) : SorobanAuthorizedFunction :=
  .createContractV2HostFn
    { contractIdPreimage := .fromAddress (sampleAccount 1) (sampleHash 0)
      executable := .externalRef (sampleAccount 2) tag
      constructorArgs := [] }

theorem sampleRefCreation_derived (tag : Bytes) :
    DerivedContext { sampleEntry with rootInvocation := .node (sampleRefCreation tag) [] }
      (sampleRefCreation tag) (.createContractExternalRef (sampleAccountId 2) (utf8Decode tag)) := by
  refine ⟨[.createContractExternalRef (sampleAccountId 2) (utf8Decode tag)], 0, ?_, rfl, rfl⟩
  refine mapM_eq_ok.mpr (List.Forall₂.cons ?_ List.Forall₂.nil)
  exact except_bind_eq_ok.mpr ⟨_, scAddressToString_eq_ok.mpr (sampleAccount_toStrkey 2), rfl⟩

theorem contextKeys_exact_sample :
    contextRuleTypeKey (.createContractExternalRef (sampleAccountId 2) (utf8Decode [97])) =
        contextRuleTypeKey (.createContractExternalRef (sampleAccountId 2) (utf8Decode [98])) ↔
      SameTarget (sampleRefCreation [97]) (sampleRefCreation [98]) := by
  apply (contextKeys_exact (sampleRefCreation_derived [97]) (sampleRefCreation_derived [98])).mpr
  rintro ⟨owner, tag, tag', hf, hg, -, htext⟩
  obtain rfl : [97] = tag := (ContextTarget.createRef.inj (Option.some.inj hf)).2
  obtain rfl : [98] = tag' := (ContextTarget.createRef.inj (Option.some.inj hg)).2
  exact absurd htext (by decide)

/-- The tags of the bytes 254 and 255 have one key. -/
theorem contextKeys_collide : ∃ entry entry' f g c c',
    DerivedContext entry f c ∧ DerivedContext entry' g c' ∧
      contextRuleTypeKey c = contextRuleTypeKey c' ∧ ¬SameTarget f g := by
  refine ⟨_, _, _, _, _, _, sampleRefCreation_derived [254], sampleRefCreation_derived [255],
    by rw [show utf8Decode [254] = utf8Decode [255] by decide], fun hsame => ?_⟩
  have htarget := (sameTarget_iff rfl rfl).mp hsame
  exact absurd (ContextTarget.createRef.inj htarget).2 (by decide)

end SmartAccountKit
