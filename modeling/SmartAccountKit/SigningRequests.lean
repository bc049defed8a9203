import SmartAccountKit.PasskeyTheorems
import SmartAccountKit.Transfers

/-!
# What signing asks for

Up to the choice of its source account, the preparation of a submission reads no
account and sends nothing. So it asks for no more than the choice of the source
does.
-/

namespace SmartAccountKit
open Lib

/-- A request that reads no account, submits nothing and does not belong to the checks of the
selection. What it simulates nobody has signed. -/
def Request.isSigning : Request → Bool
  | .getAccount _ | .sendAndPoll _ _ => false
  | .onLog stage _ | .canSignFor stage _ | .canSignEd25519 stage _ => stage != .selection
  | .simulateTransaction transaction => transaction.signatures.isEmpty
  | _ => true

/-- A program that reads no account, submits nothing and checks no selection. -/
abbrev OnlySigns {ε α : Type} (p : Program Environment ε α) : Prop :=
  Program.OnlyAsks (fun request : Request => request.isSigning = true) p

theorem onlySigns_await {ε α : Type} {r : Request} {read : Reply r → Except ε α}
    (h : r.isSigning = true) : OnlySigns (Program.await (I := Environment) r read) :=
  Program.onlyAsks_await h

theorem onlySigns_pure {ε α : Type} (a : α) : OnlySigns (pure a : Program Environment ε α) :=
  Program.exchanges_done

/-- The lines that are written inside a `try`. -/
theorem log_onlySigns (options : MultiSignerOptions) (message : String) :
    OnlySigns (options.log .signing message) := by
  unfold MultiSignerOptions.log
  split_ifs
  · exact onlySigns_await rfl
  · exact onlySigns_pure ()

/-! ## Rules -/

theorem readContextRule_onlySigns (id : JsNumber) : OnlySigns (readContextRule id) :=
  Program.onlyAsks_ofExcept_bind fun _ _ => onlySigns_await rfl

theorem probeContextRules_onlySigns (probeConfig : ProbeRuleIds) :
    OnlySigns (probeContextRules probeConfig) := by
  have hround : ∀ (misses : ℕ) (probe : RuleProbe) (id : ℕ),
      OnlySigns (probeContextRule misses probe id) := by
    intro misses probe id
    unfold probeContextRule
    by_cases hstopped : probe.stopped = true
    · rw [if_pos hstopped]
      exact onlySigns_pure probe
    · rw [if_neg hstopped]
      have hread : OnlySigns (Program.attempt (readContextRule (.ofNat id)) :
          KitProgram (Except JsError ContextRule)) :=
        Program.exchanges_attempt (readContextRule_onlySigns _)
      exact Program.OnlyAsks.bind hread fun read => onlySigns_pure _
  apply Program.OnlyAsks.bind
  · exact Program.exchanges_forEach_of_body fun id _ probe => hround _ probe id
  · exact fun probe => onlySigns_pure _

theorem readIndexedRuleIds_onlySigns (contractId : String) (probeConfig : Option ProbeRuleIds) :
    OnlySigns (readIndexedRuleIds contractId probeConfig) := by
  have hasked : OnlySigns (Program.await (I := Environment) (ε := JsError)
      (.getContractDetailsFromIndexer contractId) id) := onlySigns_await rfl
  apply Program.OnlyAsks.bind (Program.exchanges_attempt hasked)
  intro details
  cases details with
  | ok details => exact onlySigns_pure details
  | error error =>
    show OnlySigns (if probeConfig.isNone then _ else _)
    split_ifs
    · exact Program.exchanges_done
    · exact onlySigns_pure none

theorem readDiscoveredRule_onlySigns (probedRules : List ContextRule) (id : UInt32) :
    OnlySigns (readDiscoveredRule probedRules id) := by
  unfold readDiscoveredRule
  cases probedRules.find? fun rule => rule.id == id with
  | some cached => exact onlySigns_pure _
  | none =>
    apply Program.OnlyAsks.bind (Program.exchanges_attempt (readContextRule_onlySigns _))
    intro read
    cases read with
    | ok rule => exact onlySigns_pure _
    | error error =>
      show OnlySigns (if isMissingContextRuleError error then _ else _)
      split_ifs
      · exact onlySigns_pure none
      · exact Program.exchanges_done

theorem listContextRules_onlySigns (contractId : String) (probeConfig : Option ProbeRuleIds) :
    OnlySigns (listContextRules contractId probeConfig) := by
  apply Program.OnlyAsks.bind (readIndexedRuleIds_onlySigns contractId probeConfig)
  intro details
  apply Program.OnlyAsks.bind
  · cases probeConfig with
    | none => exact onlySigns_pure []
    | some probeConfig => exact probeContextRules_onlySigns probeConfig
  · intro probedRules
    dsimp only
    split_ifs
    · exact onlySigns_pure []
    · exact Program.exchanges_done
    · apply Program.OnlyAsks.bind
      · exact Program.exchanges_collectAll fun id _ => readDiscoveredRule_onlySigns probedRules id
      · exact fun rules => Program.OnlyAsks.bind (onlySigns_await rfl) fun _ => onlySigns_pure _

/-! ## Passkeys -/

theorem resolveAuthDigestScheme_onlySigns (config : KitConfig) (contractId : String) :
    OnlySigns (config.resolveAuthDigestScheme contractId) :=
  Program.OnlyAsks.bind (onlySigns_await rfl) fun _ => Program.exchanges_done

theorem passkeyExpiration_onlySigns (config : KitConfig) (requested : Option JsNumber)
    (existing : UInt32) : OnlySigns (passkeyExpiration config requested existing) := by
  refine Program.OnlyAsks.bind ?_ fun _ => Program.exchanges_done
  unfold requestedExpiration
  cases requested with
  | some expiration => exact onlySigns_pure expiration
  | none =>
    have hcalculated : OnlySigns config.calculateExpiration :=
      Program.OnlyAsks.bind (onlySigns_await rfl) fun _ => Program.exchanges_done
    dsimp only
    split_ifs
    · exact Program.OnlyAsks.bind hcalculated fun expiration => onlySigns_pure _
    · exact onlySigns_pure _

theorem passkeySigner_onlySigns (options : SignAuthEntryOptions) (ids : List JsNumber)
    (credentialId : String) : OnlySigns (passkeySigner options ids credentialId) := by
  have hfind : OnlySigns (findWebAuthnSignerInRules ids (fromBase64 credentialId)) := by
    apply Program.OnlyAsks.bind
    · refine Program.exchanges_forEach_of_body fun id _ found => ?_
      cases found with
      | some signer => exact onlySigns_pure _
      | none =>
        exact Program.OnlyAsks.bind (readContextRule_onlySigns id) fun rule => onlySigns_pure _
    · intro found
      cases found <;> exact Program.exchanges_done
  unfold passkeySigner
  cases options.signer with
  | some object => exact onlySigns_pure _
  | none => exact Program.OnlyAsks.bind hfind fun signer => onlySigns_pure _

theorem passkeyScheme_onlySigns (config : KitConfig) (options : SignAuthEntryOptions)
    (contractId : String) : OnlySigns (passkeyScheme config options contractId) := by
  unfold passkeyScheme
  cases options.authDigestScheme with
  | some scheme => exact onlySigns_pure scheme
  | none => exact resolveAuthDigestScheme_onlySigns config contractId

theorem signAuthEntry_onlySigns (config : KitConfig) (entry : SorobanAuthorizationEntry)
    (options : SignAuthEntryOptions) : OnlySigns (signAuthEntry config entry options) := by
  apply Program.onlyAsks_ofExcept_bind
  intro checked _
  apply Program.OnlyAsks.bind (passkeyExpiration_onlySigns _ _ _)
  intro expiration
  refine Program.onlyAsks_ofExcept_bind fun payload _ => ?_
  refine Program.onlyAsks_ofExcept_bind fun selection _ => ?_
  apply Program.OnlyAsks.bind
  · exact Program.exchanges_both (passkeySigner_onlySigns _ _ _) (passkeyScheme_onlySigns _ _ _)
  · intro identity
    refine Program.onlyAsks_ofExcept_bind fun digested _ => ?_
    refine Program.OnlyAsks.bind (onlySigns_await rfl) fun response => ?_
    refine Program.onlyAsks_ofExcept_bind fun signatureBytes _ => ?_
    refine Program.onlyAsks_ofExcept_bind fun signature _ => ?_
    exact Program.OnlyAsks.bind (onlySigns_await rfl) fun _ => onlySigns_pure _

/-! ## Selected signers -/

theorem signWithWallet_onlySigns (preimage : HashIdPreimage) (address : String)
    (args : Option DigestArgs) : OnlySigns (signWithWallet preimage address args) := by
  apply Program.OnlyAsks.bind (onlySigns_await rfl)
  intro signedAuthEntry
  refine Program.onlyAsks_ofExcept_bind fun scAddress _ => ?_
  exact Program.onlyAsks_ofExcept_bind fun publicKey _ => onlySigns_pure _

theorem submissionContextRuleIds_onlySigns (run : MultiSignerRun)
    (signedEntry : SorobanAuthorizationEntry) (index : ℕ) :
    OnlySigns (submissionContextRuleIds run signedEntry index) := by
  unfold submissionContextRuleIds
  by_cases hresolver : run.options.resolveContextRuleIds = true
  · rw [if_pos hresolver]
    exact onlySigns_await rfl
  · rw [if_neg hresolver]
    refine Program.onlyAsks_ofExcept_bind fun _ _ => ?_
    exact Program.OnlyAsks.bind (listContextRules_onlySigns _ _) fun _ => Program.exchanges_done

theorem delegatedAuthEntry_onlySigns (run : MultiSignerRun) (digested : DigestedEntry)
    (expiration : UInt32) (walletAddress : String) :
    OnlySigns (delegatedAuthEntry run digested expiration walletAddress) := by
  apply Program.OnlyAsks.bind (log_onlySigns _ _)
  intro _
  apply Program.OnlyAsks.bind (onlySigns_await rfl)
  intro nonce
  refine Program.onlyAsks_ofExcept_bind fun contract _ => ?_
  exact Program.OnlyAsks.bind (signWithWallet_onlySigns _ _ _) fun _ => onlySigns_pure _

theorem delegatedAuthEntries_onlySigns (run : MultiSignerRun) (digested : DigestedEntry)
    (expiration : UInt32) : OnlySigns (delegatedAuthEntries run digested expiration) := by
  unfold delegatedAuthEntries
  by_cases hnone : run.walletSigners.isEmpty = true
  · rw [if_pos hnone]
    exact onlySigns_pure []
  · rw [if_neg hnone]
    apply Program.OnlyAsks.bind (log_onlySigns _ _)
    exact fun _ => Program.exchanges_collect fun _ _ => delegatedAuthEntry_onlySigns _ _ _ _

theorem signForContextRuleIds_onlySigns (run : MultiSignerRun) (entry : SorobanAuthorizationEntry)
    (expiration : UInt32) (scheme : AuthDigestScheme) (ids : List JsNumber) :
    OnlySigns (signForContextRuleIds run entry expiration scheme ids) := by
  refine Program.onlyAsks_ofExcept_bind fun credentials _ => ?_
  refine Program.onlyAsks_ofExcept_bind fun payload _ => ?_
  refine Program.onlyAsks_ofExcept_bind fun _ _ => ?_
  apply Program.OnlyAsks.bind
  · exact Program.exchanges_forEach_of_body fun _ _ signedEntry =>
      Program.OnlyAsks.bind (log_onlySigns _ _) fun _ => signAuthEntry_onlySigns _ _ _
  · intro signedEntry
    refine Program.onlyAsks_ofExcept_bind fun digested _ => ?_
    apply Program.OnlyAsks.bind
    · refine Program.exchanges_forEach_of_body fun ed25519Signer _ authPayload => ?_
      unfold signWithEd25519
      cases ed25519Signer.2.signer with
      | none => exact onlySigns_pure _
      | some object => exact Program.OnlyAsks.bind (onlySigns_await rfl) fun _ => onlySigns_pure _
    · intro authPayload
      refine Program.onlyAsks_ofExcept_bind fun signature _ => ?_
      apply Program.OnlyAsks.bind (delegatedAuthEntries_onlySigns _ _ _)
      exact fun delegatedEntries => onlySigns_pure _

theorem signSeparateEntry_onlySigns (run : MultiSignerRun) (entry : SorobanAuthorizationEntry)
    (address : String) (expiration : UInt32) :
    OnlySigns (signSeparateEntry run entry address expiration) := by
  refine Program.onlyAsks_ofExcept_bind fun _ _ => ?_
  apply Program.OnlyAsks.bind (onlySigns_await rfl)
  intro available
  refine Program.onlyAsks_ofExcept_bind fun _ _ => ?_
  apply Program.OnlyAsks.bind (log_onlySigns _ _)
  intro _
  refine Program.onlyAsks_ofExcept_bind fun _ _ => ?_
  refine Program.onlyAsks_ofExcept_bind fun prepared _ => ?_
  exact Program.OnlyAsks.bind (signWithWallet_onlySigns _ _ _) fun _ => onlySigns_pure _

theorem signAddressEntry_onlySigns (run : MultiSignerRun) (state : SigningState)
    (entry : SorobanAuthorizationEntry) (index : ℕ) (expiration : UInt32) :
    OnlySigns (signAddressEntry run state entry index expiration) := by
  refine Program.onlyAsks_ofExcept_bind fun authAddress _ => ?_
  by_cases hother : authAddress ≠ run.contractId
  · rw [if_pos hother]
    exact Program.OnlyAsks.bind (signSeparateEntry_onlySigns _ _ _ _) fun _ => onlySigns_pure _
  · rw [if_neg hother]
    refine Program.onlyAsks_ofExcept_bind fun _ _ => ?_
    apply Program.OnlyAsks.bind
    · cases state.authDigestScheme with
      | some scheme => exact onlySigns_pure scheme
      | none => exact resolveAuthDigestScheme_onlySigns _ _
    · intro scheme
      have hsign : OnlySigns (signSmartAccountEntry run entry index expiration scheme) :=
        Program.OnlyAsks.bind (submissionContextRuleIds_onlySigns _ _ _)
          fun ids => signForContextRuleIds_onlySigns _ _ _ _ ids
      exact Program.OnlyAsks.bind hsign fun _ => onlySigns_pure _

theorem signEntry_onlySigns (run : MultiSignerRun) (defaultExpiration : UInt32)
    (state : SigningState) (indexed : SorobanAuthorizationEntry × ℕ) :
    OnlySigns (signEntry run defaultExpiration state indexed) := by
  unfold signEntry
  split
  · exact Program.exchanges_done
  · exact onlySigns_pure _
  · exact signAddressEntry_onlySigns _ _ _ _ _
  · exact signAddressEntry_onlySigns _ _ _ _ _

/-! ## The preparation of a submission -/

section preparation

variable {P : Request → Prop} (hP : ∀ request : Request, request.isSigning = true → P request)
  {config : KitConfig} {forceMethod : Option SubmissionMethod}

include hP

theorem resimulateAndAssemble_asks (sourceAccount : Account) (hostFunc : HostFunction)
    (entries : List SorobanAuthorizationEntry) :
    Program.OnlyAsks P (resimulateAndAssemble sourceAccount hostFunc entries) :=
  Program.OnlyAsks.bind (Program.onlyAsks_await (hP _ rfl)) fun _ => Program.exchanges_done

/-- Beside the choice of its source, a multi-signer preparation only signs. -/
theorem signAndPrepare_asks {run : MultiSignerRun} (authEntries : List SorobanAuthorizationEntry)
    (hsource : Program.OnlyAsks P (run.config.resolveResimSource run.options.forceMethod)) :
    Program.OnlyAsks P (signAndPrepare run authEntries) := by
  have hlog : ∀ message, Program.OnlyAsks P (run.log message) :=
    fun message => Program.Exchanges.mono (log_onlySigns _ message) hP
  apply Program.OnlyAsks.bind (hlog _)
  intro _
  apply Program.OnlyAsks.bind (Program.onlyAsks_await (hP _ rfl))
  intro sequence
  refine Program.onlyAsks_ofExcept_bind fun defaultExpiration _ => ?_
  apply Program.OnlyAsks.bind
  · exact Program.exchanges_forEach_of_body fun indexed _ state =>
      Program.Exchanges.mono (signEntry_onlySigns run defaultExpiration state indexed) hP
  intro state
  apply Program.OnlyAsks.bind (hlog _)
  intro _
  apply Program.OnlyAsks.bind hsource
  intro sourceAccount
  apply Program.OnlyAsks.bind (resimulateAndAssemble_asks hP _ _ _)
  intro preparedTx
  refine Program.onlyAsks_ofExcept_bind fun signedTx _ => ?_
  exact Program.OnlyAsks.bind (hlog _) fun _ => Program.exchanges_done

omit hP in
theorem connectedRuleIds_onlySigns (options : SignAndSubmitOptions)
    (cache : Option ConnectedContextRuleCache) (entry : SorobanAuthorizationEntry) (index : ℕ) :
    OnlySigns (connectedRuleIds config options cache entry index) := by
  have hconnected : OnlySigns (connectedContextRules config options.credentialId cache) := by
    unfold connectedContextRules
    split
    · exact Program.exchanges_done
    · refine Program.onlyAsks_ofExcept_bind fun contractId _ => ?_
      cases cache with
      | some cached => exact onlySigns_pure cached
      | none =>
        apply Program.OnlyAsks.bind (listContextRules_onlySigns _ _)
        exact fun rules => Program.onlyAsks_ofExcept_bind fun signer _ => onlySigns_pure _
  unfold connectedRuleIds
  by_cases hresolver : options.resolveContextRuleIds = true
  · rw [if_pos hresolver]
    exact Program.OnlyAsks.bind (onlySigns_await rfl) fun _ => onlySigns_pure _
  · rw [if_neg hresolver]
    apply Program.OnlyAsks.bind hconnected
    exact fun connected => Program.onlyAsks_ofExcept_bind fun ids _ => onlySigns_pure _

/-- Beside the choice of its source, a passkey preparation only signs. -/
theorem prepareCall_asks (call : ContractCall) {options : SignAndSubmitOptions}
    (allowWalletMutation : Bool)
    (hsource : Program.OnlyAsks P (config.resolveResimSource options.forceMethod)) :
    Program.OnlyAsks P (prepareCall config call options allowWalletMutation) := by
  have hfeePaying : Program.OnlyAsks P (feePayingSource config options.forceMethod) := by
    apply Program.OnlyAsks.bind (Program.exchanges_attempt hsource)
    intro source
    cases source with
    | ok account => exact Program.exchanges_done
    | error error =>
      show Program.OnlyAsks (I := Environment) P
        (if error.errorClass = .submissionError then _ else _)
      split_ifs <;> exact Program.exchanges_done
  refine Program.onlyAsks_ofExcept_bind fun invocation _ => ?_
  refine Program.OnlyAsks.bind ?_ fun _ => Program.exchanges_done
  apply Program.OnlyAsks.bind
  · refine Program.exchanges_forEach_of_body fun indexed _ state => Program.Exchanges.mono ?_ hP
    apply Program.OnlyAsks.bind (connectedRuleIds_onlySigns _ _ _ _)
    exact fun ids => Program.OnlyAsks.bind (signAuthEntry_onlySigns _ _ _) fun _ =>
      onlySigns_pure _
  · intro state
    exact Program.OnlyAsks.bind hfeePaying fun source => resimulateAndAssemble_asks hP _ _ _

end preparation

end SmartAccountKit
