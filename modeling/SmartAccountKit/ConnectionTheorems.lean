import SmartAccountKit.Connection
import SmartAccountKit.ProvenanceTheorems

/-!
# What a connection has checked

A run connects the kit or saves a session only after every check. What the
checks found stands in the history before the connection.
-/

namespace SmartAccountKit
open Lib

/-! ## Programs that write nothing -/

theorem verifyFreshAssertion_onlyChecks (response : FreshAssertion)
    (policy : FreshAssertionPolicy) : OnlyChecks (verifyFreshAssertion response policy) := by
  refine exchanges_settle ?_
  split
  · exact Program.exchanges_done
  · refine Program.exchanges_ofExcept_bind fun _ _ => ?_
    refine Program.exchanges_ofExcept_bind fun _ _ => ?_
    refine Program.exchanges_ofExcept_bind fun _ _ => ?_
    exact Program.exchanges_bind (onlyChecks_await rfl) fun _ _ _ => onlyChecks_await rfl

section parts

variable (config : ConnectionConfig) (credential : Option StoredCredential)
  (credentialId contractId : String) (publicKey : Bytes)

theorem selectBirthCandidate_requests {P : WalletRequest → Prop} (usedDerivedCandidate : Bool)
    (hledger : P .getLatestLedger) (hlookup : P (.lookupWalletCandidates credentialId)) :
    Program.Exchanges P (fun _ => True)
      (selectBirthCandidate config credential credentialId contractId usedDerivedCandidate) := by
  refine Program.exchanges_bind ?_ fun candidates _ _ => ?_
  · unfold birthCandidates lookupBirthCandidates
    split
    · exact Program.exchanges_done
    · split
      · refine Program.exchanges_bind (Program.exchanges_await hledger fun _ _ => trivial)
          fun _ _ _ => ?_
        exact Program.exchanges_bind (Program.exchanges_await hlookup fun _ _ => trivial)
          fun _ _ _ => Program.exchanges_done
      · exact Program.exchanges_done
  · split <;> exact Program.exchanges_done

theorem selectBirthCandidate_writesNothing (usedDerivedCandidate : Bool) :
    WritesNothing
      (selectBirthCandidate config credential credentialId contractId usedDerivedCandidate) :=
  selectBirthCandidate_requests config credential credentialId contractId usedDerivedCandidate
    rfl rfl

theorem requireVerifiedBirth_onlyChecks (candidate : WalletCandidate) :
    OnlyChecks
      (requireVerifiedBirth config credential credentialId contractId candidate) := by
  refine Program.exchanges_bind (verifyWalletBirth_onlyChecks _ _) fun result _ _ => ?_
  cases result <;> exact Program.exchanges_done

theorem requireLiveSigner_onlyChecks :
    OnlyChecks (requireLiveSigner config credential credentialId contractId publicKey) := by
  unfold requireLiveSigner
  split
  · refine Program.exchanges_ofExcept_bind fun _ _ => ?_
    refine Program.exchanges_bind (onlyChecks_await rfl) fun _ _ _ => ?_
    exact Program.exchanges_bind (onlyChecks_await rfl) fun _ _ _ => Program.exchanges_done
  · exact Program.exchanges_done

theorem requireFreshOwnership_onlyVerifies (proof : Option FreshOwnershipProof)
    (allowAuthentication : Bool) :
    OnlyVerifies
      (requireFreshOwnership config credentialId contractId publicKey proof
        allowAuthentication) := by
  refine Program.exchanges_bind ?_ fun found _ _ => ?_
  · unfold ownershipProof
    split
    · exact Program.exchanges_done
    · split
      · exact Program.exchanges_bind (onlyVerifies_await ⟨rfl, rfl⟩) fun _ _ _ => Program.exchanges_done
      · exact Program.exchanges_done
  · split
    · refine Program.exchanges_bind (verifyFreshAssertion_onlyChecks _ _).onlyVerifies fun result _ _ => ?_
      cases result <;> exact Program.exchanges_done
    · exact Program.exchanges_done

theorem requireOwnership_onlyVerifies (proof : Option FreshOwnershipProof)
    (allowAuthentication : Bool) :
    OnlyVerifies
      (requireOwnership config credential credentialId contractId publicKey proof
        allowAuthentication) := by
  unfold requireOwnership
  split
  · exact Program.exchanges_done
  · exact requireFreshOwnership_onlyVerifies config credentialId contractId publicKey proof
      allowAuthentication

end parts

/-! ## What a history shows -/

/-- The wallet that a request connects, or announces as connected, with its credential. -/
def WalletRequest.connection? : WalletRequest → Option (String × String)
  | .setConnectedState contractId credentialId => some (contractId, credentialId)
  | .emit (.walletConnected contractId credentialId) => some (contractId, credentialId)
  | .saveSession session => some (session.contractId, session.credentialId)
  | _ => none

/-- A history has an instance read of a contract with accepted code. -/
def RunsAcceptedCode (config : ConnectionConfig) (contractId : String)
    (t : History WalletEnvironment) : Prop :=
  ∃ wasmHash : BytesN 32, toHex wasmHash.1 ∈ config.acceptedWasmHashes ∧
    (⟨.getContractData contractId, .ok (.wasm wasmHash)⟩ : Exchange WalletEnvironment) ∈ t

/-- The one birth candidate of a contract: the record's, or the only one that a complete schema-2
lookup claims, which is not older than the ledger read before it. -/
def OneBirthClaim (credential : Option StoredCredential) (credentialId contractId : String)
    (candidate : WalletCandidate) (t : History WalletEnvironment) : Prop :=
  candidateFromStoredCredential credential contractId = some candidate ∨
    candidateFromStoredCredential credential contractId = none ∧
      ∃ (ledger : UInt32) (lookup : WalletCandidateLookup),
        [(⟨.getLatestLedger, .ok ledger⟩ : Exchange WalletEnvironment),
          ⟨.lookupWalletCandidates credentialId, .ok (some lookup)⟩] <:+: t ∧
        lookup.complete = true ∧ lookup.schema = 2 ∧
        lookup.indexedThroughLedger.lt (.ofU32 ledger) = false ∧
        (lookup.candidates.filter fun c => c.contractId == contractId).map
          (·.toWalletCandidate) = [candidate]

/-- The verification accepted the candidate. -/
def BirthAccepted (deps : WalletBirthVerificationDeps) (candidate : WalletCandidate)
    (birth : VerifiedWalletBirth) (t : History WalletEnvironment) : Prop :=
  ∃ t', t' <:+: t ∧ Program.Run (verifyWalletBirth deps candidate) t' (.ok (.ok birth))

/-- The expected rule had not expired at a ledger read after it, and had one signer that is the
passkey. -/
def LiveSigner (contractId : String) (contextRuleId : UInt32) (passkey : Signer)
    (t : History WalletEnvironment) : Prop :=
  ∃ (liveRule : ContextRule) (liveLedger : UInt32),
    [(⟨.readContextRule contractId contextRuleId, .ok liveRule⟩ : Exchange WalletEnvironment),
      ⟨.getLatestLedger, .ok liveLedger⟩] <:+: t ∧
    (∀ validUntil ∈ liveRule.validUntil, liveLedger ≤ validUntil) ∧
    liveRule.signers.count passkey = 1

/-- A fresh assertion under a public key was verified. -/
def FreshlyOwned (config : ConnectionConfig) (credentialId : String) (publicKey : Bytes)
    (proof : Option FreshOwnershipProof) (t : History WalletEnvironment) : Prop :=
  ∃ (ownershipProof : FreshOwnershipProof) (rpId : String) (t' : History WalletEnvironment),
    (proof = some ownershipProof ∨ (⟨.authenticateCredential credentialId, .ok ownershipProof⟩ :
      Exchange WalletEnvironment) ∈ t) ∧
    config.rpId = some rpId ∧ t' <:+: t ∧
    Program.Run (verifyFreshAssertion ownershipProof.response
      { expectedChallenge := ownershipProof.challenge
        expectedCredentialId := credentialId
        rpId := rpId
        publicKey := publicKey
        allowedOrigins := config.allowedOrigins.getD [] }) t' (.ok (.ok ()))

/-- What was checked before a connection. -/
structure ConnectionVerified (config : ConnectionConfig) (credential : Option StoredCredential)
    (credentialId contractId : String) (proof : Option FreshOwnershipProof)
    (candidate : WalletCandidate) (birth : VerifiedWalletBirth) (publicKey : Bytes)
    (t : History WalletEnvironment) : Prop where
  code : RunsAcceptedCode config contractId t
  candidate_contractId : candidate.contractId = contractId
  claim : OneBirthClaim credential credentialId contractId candidate t
  indexed : candidateFromStoredCredential credential contractId = none → config.hasLookup = true
  accepted : BirthAccepted (birthVerificationDeps config credential credentialId) candidate birth t
  key : (credential.map (·.publicKey)).or (publicKeyFromExternalSigner birth.birthSigner) =
    some publicKey
  birthSigner : localSecondary credential = false → birth.birthSigner =
    .external config.webauthnVerifierAddress (publicKey ++ fromBase64 credentialId)
  readable : config.hasReadContextRule = true
  live : ∃ contextRuleId, expectedContextRuleId credential credentialId contractId =
      .ok contextRuleId ∧
    LiveSigner contractId contextRuleId
      (.external config.webauthnVerifierAddress (publicKey ++ fromBase64 credentialId)) t
  owned : locallyApproved credential = true ∨ FreshlyOwned config credentialId publicKey proof t

/-! What a part of a history shows, the whole of it shows. -/

section monotone

variable {config : ConnectionConfig} {credential : Option StoredCredential}
  {credentialId contractId : String} {t t' : History WalletEnvironment}

theorem OneBirthClaim.mono {candidate : WalletCandidate} (ht : t <:+: t')
    (h : OneBirthClaim credential credentialId contractId candidate t) :
    OneBirthClaim credential credentialId contractId candidate t' :=
  h.imp_right fun ⟨hnone, ledger, lookup, hasked, hclaim⟩ =>
    ⟨hnone, ledger, lookup, hasked.trans ht, hclaim⟩

theorem LiveSigner.mono {contextRuleId : UInt32} {passkey : Signer} (ht : t <:+: t')
    (h : LiveSigner contractId contextRuleId passkey t) :
    LiveSigner contractId contextRuleId passkey t' := by
  obtain ⟨liveRule, liveLedger, hread, hlive⟩ := h
  exact ⟨liveRule, liveLedger, hread.trans ht, hlive⟩

theorem FreshlyOwned.mono {publicKey : Bytes} {proof : Option FreshOwnershipProof}
    (ht : t <:+: t') (h : FreshlyOwned config credentialId publicKey proof t) :
    FreshlyOwned config credentialId publicKey proof t' := by
  obtain ⟨ownershipProof, rpId, s, hgiven, hrpId, hs, hverify⟩ := h
  exact ⟨ownershipProof, rpId, s, hgiven.imp_right fun hmem => ht.subset hmem, hrpId,
    hs.trans ht, hverify⟩

theorem ConnectionVerified.mono {proof : Option FreshOwnershipProof} {candidate : WalletCandidate}
    {birth : VerifiedWalletBirth} {publicKey : Bytes} (ht : t <:+: t')
    (h : ConnectionVerified config credential credentialId contractId proof candidate birth
      publicKey t) :
    ConnectionVerified config credential credentialId contractId proof candidate birth publicKey
      t' :=
  { h with
    code := h.code.imp fun _ hcode => hcode.imp_right fun hmem => ht.subset hmem
    claim := h.claim.mono ht
    accepted := h.accepted.imp fun _ hs => hs.imp_left fun hwithin => hwithin.trans ht
    live := h.live.imp fun _ hlive => hlive.imp_right (LiveSigner.mono ht)
    owned := h.owned.imp_right (FreshlyOwned.mono ht) }

end monotone

/-! ## The checks of a successful run -/

section checks

variable {config : ConnectionConfig} {credential : Option StoredCredential}
  {credentialId contractId : String} {publicKey : Bytes} {t : History WalletEnvironment}

theorem signerMatchesCredential_iff {signer : Signer} {verifierAddress : String} :
    signerMatchesCredential signer verifierAddress publicKey credentialId = true ↔
      signer = .external verifierAddress (publicKey ++ fromBase64 credentialId) :=
  signersEqual_iff

theorem markPending_requests : Program.Exchanges
    (fun r : WalletRequest =>
      r = .updateCredential credentialId { deploymentStatus := some .pending }) (fun _ => True)
    (markPending credential credentialId) := by
  unfold markPending
  split
  · exact Program.exchanges_await rfl fun _ _ => trivial
  · exact Program.exchanges_done

theorem readInstance_requests {P : WalletRequest → Prop} (hread : P (.getContractData contractId))
    (hmark : P (.updateCredential credentialId { deploymentStatus := some .pending })) :
    Program.Exchanges P (fun _ => True) (readInstance credential credentialId contractId) := by
  refine Program.exchanges_bind (Program.exchanges_await hread fun _ _ => trivial)
    fun reply _ _ => ?_
  cases reply with
  | ok executable => exact Program.exchanges_done
  | error e =>
    refine Program.exchanges_bind (markPending_requests.mono ?_) fun _ _ _ =>
      Program.exchanges_done
    intro r hr
    rw [hr]
    exact hmark

theorem run_readInstance_ok {executable : ContractExecutable}
    (h : Program.Run (readInstance credential credentialId contractId) t (.ok executable)) :
    t = [⟨.getContractData contractId, .ok executable⟩] := by
  obtain ⟨reply, t₁, t₂, rfl, hread, hrest⟩ := Program.run_bind_ok.mp h
  obtain ⟨reply', rfl, hreply⟩ := Program.run_await.mp hread
  obtain rfl := Except.ok.inj hreply
  cases reply with
  | ok found =>
    obtain ⟨rfl, hfound⟩ := Program.run_pure.mp hrest
    rw [Except.ok.inj hfound]
    rfl
  | error e =>
    -- both ways of failing end with an error
    obtain ⟨_, t₃, t₄, -, -, hthrow⟩ := Program.run_bind_ok.mp hrest
    exact nomatch (Program.run_throw.mp hthrow).2

theorem assertAcceptedCode_eq_ok {executable : ContractExecutable} {accepted : List String} :
    assertAcceptedCode executable contractId accepted = .ok () ↔
      ∃ wasmHash : BytesN 32, executable = .wasm wasmHash ∧ toHex wasmHash.1 ∈ accepted := by
  cases executable with
  | wasm wasmHash =>
    rw [assertAcceptedCode]
    split_ifs with h <;> simp [h]
  | _ => simp [assertAcceptedCode]

theorem indexedCandidates_eq_ok {usedDerivedCandidate : Bool} {ledger : UInt32}
    {found : Option WalletCandidateLookup} {candidates : List WalletCandidate}
    (h : indexedCandidates contractId usedDerivedCandidate ledger found = .ok candidates) :
    ∃ lookup, found = some lookup ∧ lookup.complete = true ∧ lookup.schema = 2 ∧
      lookup.indexedThroughLedger.lt (.ofU32 ledger) = false ∧
      (lookup.candidates.filter fun c => c.contractId == contractId).map
        (·.toWalletCandidate) = candidates := by
  cases found with
  | none => exact nomatch h
  | some lookup =>
    unfold indexedCandidates at h
    dsimp only at h
    split_ifs at h with hcomplete hstale hambiguous
    rw [not_or, Bool.not_eq_true, Bool.not_eq_false', not_not] at hcomplete
    exact ⟨lookup, rfl, hcomplete.1, hcomplete.2, Bool.eq_false_iff.mpr hstale,
      Except.ok.inj h⟩

/-- The candidate that is selected is the one claim for its contract; one that is not the
record's comes from an indexer. -/
theorem run_selectBirthCandidate_ok {usedDerivedCandidate : Bool} {candidate : WalletCandidate}
    (h : Program.Run (selectBirthCandidate config credential credentialId contractId
      usedDerivedCandidate) t (.ok candidate)) :
    OneBirthClaim credential credentialId contractId candidate t ∧
      (candidateFromStoredCredential credential contractId = none → config.hasLookup = true) := by
  obtain ⟨candidates, t₁, t₂, rfl, hcandidates, hrest⟩ := Program.run_bind_ok.mp h
  have hone : candidates = [candidate] ∧ t₂ = [] := by
    match candidates with
    | [only] =>
      obtain ⟨ht, honly⟩ := Program.run_pure.mp hrest
      rw [Except.ok.inj honly]
      exact ⟨rfl, ht⟩
    | [] => exact nomatch (Program.run_throw.mp hrest).2
    | _ :: _ :: _ => exact nomatch (Program.run_throw.mp hrest).2
  obtain ⟨rfl, rfl⟩ := hone
  rw [List.append_nil]
  rw [birthCandidates] at hcandidates
  cases hstored : candidateFromStoredCredential credential contractId with
  | some storedCandidate =>
    rw [hstored] at hcandidates
    have := Except.ok.inj (Program.run_pure.mp hcandidates).2
    rw [List.singleton_inj.mp this]
    exact ⟨Or.inl hstored, fun h => nomatch h⟩
  | none =>
    rw [hstored] at hcandidates
    dsimp only at hcandidates
    rw [lookupBirthCandidates] at hcandidates
    split_ifs at hcandidates with hlookup
    · obtain ⟨ledger, t₁, t₂, rfl, hledger, hrest⟩ := Program.run_bind_ok.mp hcandidates
      obtain ⟨found, t₃, t₄, rfl, hfound, hlast⟩ := Program.run_bind_ok.mp hrest
      obtain ⟨reply, rfl, hreply⟩ := Program.run_await.mp hledger
      obtain ⟨reply', rfl, hreply'⟩ := Program.run_await.mp hfound
      obtain ⟨rfl, hindexed⟩ := Program.run_ofExcept.mp hlast
      obtain ⟨lookup, rfl, hclaim⟩ := indexedCandidates_eq_ok hindexed.symm
      obtain rfl : Except.ok ledger = reply := hreply
      obtain rfl : Except.ok (some lookup) = reply' := hreply'
      exact ⟨Or.inr ⟨hstored, ledger, lookup, List.infix_rfl, hclaim⟩, fun _ => hlookup⟩
    · exact nomatch (Program.run_throw.mp hcandidates).2

theorem run_requireVerifiedBirth_ok {candidate : WalletCandidate} {birth : VerifiedWalletBirth}
    (h : Program.Run (requireVerifiedBirth config credential credentialId contractId candidate) t
      (.ok birth)) :
    Program.Run (verifyWalletBirth (birthVerificationDeps config credential credentialId)
      candidate) t (.ok (.ok birth)) := by
  obtain ⟨verdict, t₁, t₂, rfl, hverify, hrest⟩ := Program.run_bind_ok.mp h
  cases verdict with
  | ok value =>
    obtain ⟨rfl, hvalue⟩ := Program.run_pure.mp hrest
    rw [Except.ok.inj hvalue, List.append_nil]
    exact hverify
  | fail reason detail => exact nomatch (Program.run_throw.mp hrest).2

theorem requireBirthSigner_eq_ok {birth : VerifiedWalletBirth}
    (h : requireBirthSigner config credential credentialId contractId birth = .ok publicKey) :
    (credential.map (·.publicKey)).or (publicKeyFromExternalSigner birth.birthSigner) =
        some publicKey ∧
      (localSecondary credential = false → birth.birthSigner =
        .external config.webauthnVerifierAddress (publicKey ++ fromBase64 credentialId)) := by
  unfold requireBirthSigner at h
  dsimp only at h
  cases hkey : (credential.map (·.publicKey)).or
      (publicKeyFromExternalSigner birth.birthSigner) with
  | none => rw [hkey] at h; exact nomatch h
  | some key =>
    rw [hkey] at h
    dsimp only at h
    split_ifs at h with hmismatch
    obtain rfl := Except.ok.inj h
    refine ⟨rfl, fun hlocal => signerMatchesCredential_iff.mp ?_⟩
    by_contra hne
    exact hmismatch ⟨by rw [hlocal]; rfl, by simpa using hne⟩

theorem checkLiveRule_eq_ok {contextRuleId liveLedger : UInt32} {liveRule : ContextRule}
    (h : checkLiveRule config credentialId contractId publicKey contextRuleId liveRule liveLedger =
      .ok ()) :
    (∀ validUntil ∈ liveRule.validUntil, liveLedger ≤ validUntil) ∧
      liveRule.signers.count
        (.external config.webauthnVerifierAddress (publicKey ++ fromBase64 credentialId)) = 1 := by
  unfold checkLiveRule at h
  dsimp only at h
  cases hexpired : liveRule.validUntil.filter fun validUntil => validUntil < liveLedger with
  | some validUntil => rw [hexpired] at h; exact nomatch h
  | none =>
    rw [hexpired] at h
    dsimp only at h
    split_ifs at h with hcount
    rw [not_not] at hcount
    refine ⟨fun validUntil hvalid => ?_, ?_⟩
    · rw [Option.mem_def.mp hvalid, Option.filter_some] at hexpired
      split_ifs at hexpired with hlt
      simpa using hlt
    · rw [List.count_eq_length_filter, ← hcount]
      refine congrArg List.length (List.filter_congr fun signer _ => ?_)
      rw [Bool.eq_iff_iff, beq_iff_eq, signerMatchesCredential_iff]

theorem run_requireLiveSigner_ok
    (h : Program.Run (requireLiveSigner config credential credentialId contractId publicKey) t
      (.ok ())) :
    config.hasReadContextRule = true ∧
      ∃ contextRuleId, expectedContextRuleId credential credentialId contractId =
          .ok contextRuleId ∧
        LiveSigner contractId contextRuleId
          (.external config.webauthnVerifierAddress (publicKey ++ fromBase64 credentialId)) t := by
  rw [requireLiveSigner] at h
  split_ifs at h with hread
  · obtain ⟨contextRuleId, hid, hrest⟩ := Program.run_ofExcept_bind_ok.mp h
    obtain ⟨liveRule, t₁, t₂, rfl, hrule, hrest⟩ := Program.run_bind_ok.mp hrest
    obtain ⟨liveLedger, t₃, t₄, rfl, hledger, hlast⟩ := Program.run_bind_ok.mp hrest
    obtain ⟨reply, rfl, hreply⟩ := Program.run_await.mp hrule
    obtain ⟨reply', rfl, hreply'⟩ := Program.run_await.mp hledger
    obtain ⟨rfl, hchecked⟩ := Program.run_ofExcept.mp hlast
    obtain rfl : Except.ok liveRule = reply := hreply
    obtain rfl : Except.ok liveLedger = reply' := hreply'
    exact ⟨hread, contextRuleId, hid, liveRule, liveLedger, List.infix_rfl,
      checkLiveRule_eq_ok hchecked.symm⟩
  · exact nomatch (Program.run_throw.mp h).2

theorem run_requireFreshOwnership_ok {proof : Option FreshOwnershipProof}
    {allowAuthentication : Bool}
    (h : Program.Run (requireFreshOwnership config credentialId contractId publicKey proof
      allowAuthentication) t (.ok ())) :
    FreshlyOwned config credentialId publicKey proof t := by
  obtain ⟨found, t₁, t₂, rfl, hproof, hrest⟩ := Program.run_bind_ok.mp h
  have hgiven : ∀ ownershipProof, found = some ownershipProof → proof = some ownershipProof ∨
      (⟨.authenticateCredential credentialId, .ok ownershipProof⟩ :
        Exchange WalletEnvironment) ∈ t₁ := by
    rintro ownershipProof rfl
    cases proof with
    | some given =>
      exact Or.inl (Except.ok.inj (Program.run_pure.mp hproof).2).symm
    | none =>
      unfold SmartAccountKit.ownershipProof at hproof
      dsimp only at hproof
      split_ifs at hproof with hallowed
      · obtain ⟨asked, t₃, t₄, rfl, hasked, hlast⟩ := Program.run_bind_ok.mp hproof
        obtain ⟨reply, rfl, hreply⟩ := Program.run_await.mp hasked
        obtain ⟨rfl, hsome⟩ := Program.run_pure.mp hlast
        obtain rfl := Option.some.inj (Except.ok.inj hsome)
        obtain rfl : Except.ok ownershipProof = reply := hreply
        exact Or.inr (by simp)
      · exact nomatch Except.ok.inj (Program.run_pure.mp hproof).2
  split at hrest
  next ownershipProof rpId origin origins hrpId horigins =>
    obtain ⟨verdict, t₃, t₄, rfl, hverify, hlast⟩ := Program.run_bind_ok.mp hrest
    have hmem := (hgiven ownershipProof rfl).imp_right (List.mem_append_left (t₃ ++ t₄))
    rw [← horigins] at hverify
    cases verdict with
    | ok value =>
      exact ⟨ownershipProof, rpId, t₃, hmem, (nonEmptyText_eq_some.mp hrpId).1,
        (List.prefix_append _ _).isInfix.trans (List.suffix_append _ _).isInfix, hverify⟩
    | fail reason detail => exact nomatch (Program.run_throw.mp hlast).2
  next => exact nomatch (Program.run_throw.mp hrest).2

theorem run_requireOwnership_ok {proof : Option FreshOwnershipProof} {allowAuthentication : Bool}
    (h : Program.Run (requireOwnership config credential credentialId contractId publicKey proof
      allowAuthentication) t (.ok ())) :
    locallyApproved credential = true ∨ FreshlyOwned config credentialId publicKey proof t := by
  rw [requireOwnership] at h
  split_ifs at h with happroved
  · exact Or.inl happroved
  · exact Or.inr (run_requireFreshOwnership_ok h)

/-- The candidate of a claim is one for its contract. -/
theorem OneBirthClaim.contractId_eq {candidate : WalletCandidate}
    (h : OneBirthClaim credential credentialId contractId candidate t) :
    candidate.contractId = contractId := by
  rcases h with hstored | ⟨-, ledger, lookup, -, -, -, -, honly⟩
  · unfold candidateFromStoredCredential at hstored
    simp only [Option.bind_eq_bind, Option.bind_eq_some_iff] at hstored
    obtain ⟨record, -, wasm, -, txHash, -, creationLedger, -, hrecord⟩ := hstored
    split_ifs at hrecord
    rw [← Option.some.inj hrecord]
  · have hmem : candidate ∈ (lookup.candidates.filter fun c => c.contractId == contractId).map
        (·.toWalletCandidate) := by
      rw [honly]
      exact List.mem_singleton_self candidate
    obtain ⟨indexed, hindexed, rfl⟩ := List.mem_map.mp hmem
    simpa using (List.mem_filter.mp hindexed).2

end checks

/-! ## A connection fails closed -/

/-- What saving a connection asks for. -/
theorem saveConnection_requests {config : ConnectionConfig} {verified : StoredCredential}
    {P : WalletRequest → Prop} (hrecord : P (.saveCredential verified))
    (hconnect : P (.setConnectedState verified.contractId verified.credentialId))
    (hannounce : P (.emit (.walletConnected verified.contractId verified.credentialId)))
    (hclock : P .dateNow)
    (hsession : ∀ now, P (.saveSession
      { contractId := verified.contractId
        credentialId := verified.credentialId
        expiresAt := some (.ofNat (now + config.sessionExpiryMs)) })) :
    Program.Exchanges P (fun _ => True) (saveConnection config verified) := by
  refine Program.exchanges_bind (Program.exchanges_await hrecord fun _ _ => trivial) fun _ _ _ => ?_
  refine Program.exchanges_bind (Program.exchanges_await hconnect fun _ _ => trivial)
    fun _ _ _ => ?_
  refine Program.exchanges_bind (Program.exchanges_await hannounce fun _ _ => trivial)
    fun _ _ _ => ?_
  refine Program.exchanges_bind (Program.exchanges_await hclock fun _ _ => trivial)
    fun now _ _ => ?_
  exact Program.exchanges_bind (Program.exchanges_await (hsession now) fun _ _ => trivial)
    fun _ _ _ => Program.exchanges_done

theorem saveConnection_connects {config : ConnectionConfig} {verified : StoredCredential}
    {t : History WalletEnvironment} {x : Except JsError ConnectWalletResult}
    (hrun : Program.Run (saveConnection config verified) t x) :
    ∀ e ∈ t, ∀ target ∈ WalletRequest.connection? e.request,
      target = (verified.contractId, verified.credentialId) := by
  have hexchanges : Program.Exchanges (fun r : WalletRequest =>
      ∀ target ∈ r.connection?, target = (verified.contractId, verified.credentialId))
      (fun _ => True) (saveConnection config verified) := by
    apply saveConnection_requests
    case hrecord | hclock => exact fun _ h => nomatch h
    case hconnect | hannounce => exact fun _ h => (Option.some.inj h).symm
    case hsession => exact fun _ _ h => (Option.some.inj h).symm
  exact fun e he => (hexchanges t x hrun e he).1

/-- A request that saves a connection: the record, the connected state, its event or the
session. -/
def WalletRequest.savesConnection : WalletRequest → Bool
  | .saveCredential _ | .setConnectedState _ _ | .emit _ | .saveSession _ => true
  | _ => false

theorem WalletRequest.savesConnection_of_connection {r : WalletRequest} {target : String × String}
    (h : r.connection? = some target) : r.savesConnection = true := by
  cases r <;> first | rfl | exact nomatch h

/-- What a program that writes nothing exchanges saves nothing. -/
theorem WritesNothing.savesNothing {ε α : Type} {p : Program WalletEnvironment ε α}
    (hp : WritesNothing p) :
    Program.Exchanges (fun r : WalletRequest => r.savesConnection = false) (fun _ => True) p := by
  refine Program.Exchanges.mono hp fun r hr => ?_
  cases r <;> first | rfl | exact nomatch hr

section failsClosed

variable {config : ConnectionConfig} {credential : Option StoredCredential}
  {credentialId contractId : String} {usedDerivedCandidate : Bool}
  {proof : Option FreshOwnershipProof} {allowAuthentication : Bool}
  {before after : History WalletEnvironment} {e : Exchange WalletEnvironment}
  {x : Except JsError ConnectWalletResult}

/-- Every check stands before an exchange that saves the connection. -/
theorem connectToContract_saves
    (hrun : Program.Run (connectToContract config credential credentialId contractId
      usedDerivedCandidate proof allowAuthentication) (before ++ e :: after) x)
    (he : WalletRequest.savesConnection e.request = true) :
    ∃ candidate birth publicKey saved,
      ConnectionVerified config credential credentialId contractId proof candidate birth publicKey
        before ∧
      Program.Run (saveConnection config
        (verifiedCredential credential credentialId contractId publicKey birth))
        (saved ++ e :: after) x := by
  have hsaves : ¬WalletRequest.savesConnection e.request = false := by
    rw [he]
    exact fun h => by cases h
  obtain ⟨executable, t₁, r₁, rfl, hinstance, hrun⟩ := Program.run_bind_at
    (readInstance_requests (P := fun r : WalletRequest => r.savesConnection = false) rfl rfl)
    hsaves hrun
  obtain ⟨_, t₂, r₂, rfl, hcode, hrun⟩ := Program.run_bind_at
    (P := fun r : WalletRequest => r.savesConnection = false) (R := fun _ => True)
    Program.exchanges_done hsaves hrun
  obtain ⟨candidate, t₃, r₃, rfl, hcandidate, hrun⟩ := Program.run_bind_at
    (selectBirthCandidate_writesNothing config credential credentialId contractId
      usedDerivedCandidate).savesNothing hsaves hrun
  obtain ⟨birth, t₄, r₄, rfl, hbirth, hrun⟩ := Program.run_bind_at
    (requireVerifiedBirth_onlyChecks config credential credentialId contractId
      candidate).onlyVerifies.writesNothing.savesNothing hsaves hrun
  obtain ⟨publicKey, t₅, r₅, rfl, hkey, hrun⟩ := Program.run_bind_at
    (P := fun r : WalletRequest => r.savesConnection = false) (R := fun _ => True)
    Program.exchanges_done hsaves hrun
  obtain ⟨_, t₆, r₆, rfl, hlive, hrun⟩ := Program.run_bind_at
    (requireLiveSigner_onlyChecks config credential credentialId contractId
      publicKey).onlyVerifies.writesNothing.savesNothing hsaves hrun
  obtain ⟨_, t₇, r₇, rfl, howned, hrun⟩ := Program.run_bind_at
    (requireOwnership_onlyVerifies config credential credentialId contractId publicKey proof
      allowAuthentication).writesNothing.savesNothing hsaves hrun
  refine ⟨candidate, birth, publicKey, r₇, ?_, hrun⟩
  obtain ⟨wasmHash, rfl, haccepted⟩ :=
    assertAcceptedCode_eq_ok.mp (Program.run_ofExcept.mp hcode).2.symm
  rw [run_readInstance_ok hinstance]
  obtain ⟨hclaim, hindexed⟩ := run_selectBirthCandidate_ok hcandidate
  obtain ⟨hpublicKey, hbirthSigner⟩ :=
    requireBirthSigner_eq_ok (Program.run_ofExcept.mp hkey).2.symm
  obtain ⟨hreadable, contextRuleId, hid, hsigner⟩ := run_requireLiveSigner_ok hlive
  exact
    { code := ⟨wasmHash, haccepted, by simp⟩
      candidate_contractId := hclaim.contractId_eq
      claim := hclaim.mono ⟨[⟨.getContractData contractId, .ok (.wasm wasmHash)⟩] ++ t₂,
        t₄ ++ (t₅ ++ (t₆ ++ (t₇ ++ r₇))), by simp⟩
      indexed := hindexed
      accepted := ⟨t₄, ⟨[⟨.getContractData contractId, .ok (.wasm wasmHash)⟩] ++ t₂ ++ t₃,
        t₅ ++ (t₆ ++ (t₇ ++ r₇)), by simp⟩, run_requireVerifiedBirth_ok hbirth⟩
      key := hpublicKey
      birthSigner := hbirthSigner
      readable := hreadable
      live := ⟨contextRuleId, hid, hsigner.mono
        ⟨[⟨.getContractData contractId, .ok (.wasm wasmHash)⟩] ++ t₂ ++ t₃ ++ t₄ ++ t₅,
          t₇ ++ r₇, by simp⟩⟩
      owned := (run_requireOwnership_ok howned).imp_right (FreshlyOwned.mono
        ⟨[⟨.getContractData contractId, .ok (.wasm wasmHash)⟩] ++ t₂ ++ t₃ ++ t₄ ++ t₅ ++ t₆,
          r₇, by simp⟩) }

/-- Every check stands before an exchange that connects, and it connects the wallet. -/
theorem connectToContract_verified {target : String × String}
    (hrun : Program.Run (connectToContract config credential credentialId contractId
      usedDerivedCandidate proof allowAuthentication) (before ++ e :: after) x)
    (he : WalletRequest.connection? e.request = some target) :
    target = (contractId, credentialId) ∧ ∃ candidate birth publicKey,
      ConnectionVerified config credential credentialId contractId proof candidate birth publicKey
        before := by
  obtain ⟨candidate, birth, publicKey, saved, hverified, hsave⟩ :=
    connectToContract_saves hrun (WalletRequest.savesConnection_of_connection he)
  exact ⟨saveConnection_connects hsave e (by simp) target he, candidate, birth, publicKey,
    hverified⟩

/-- A run connects the kit, announces it or saves a session only for the wallet and the credential
it was asked for, and only after the code, the one birth claim, the live signer and the ownership
have been checked. -/
theorem connectWithCredentials_fails_closed {credentialId? contractId? : Option String}
    {target : String × String}
    (hrun : Program.Run (connectWithCredentials config credentialId? contractId? proof
      allowAuthentication) (before ++ e :: after) x)
    (he : WalletRequest.connection? e.request = some target) :
    nonEmptyText credentialId? = some target.2 ∧
      ∃ credential derived candidate birth publicKey,
        connectionContractId config credential target.2 contractId? = .ok (target.1, derived) ∧
        (⟨.getCredential target.2, credential⟩ : Exchange WalletEnvironment) ∈ before ∧
        ConnectionVerified config credential target.2 target.1 proof candidate birth publicKey
          before := by
  have hconnects : ¬WalletRequest.connection? e.request = none := by
    rw [he]
    exact fun h => nomatch h
  rw [connectWithCredentials] at hrun
  cases hid : nonEmptyText credentialId? with
  | none =>
    rw [hid] at hrun
    exact absurd (Program.run_throw.mp hrun).1 (by simp)
  | some credentialId =>
    rw [hid] at hrun
    obtain ⟨credential, t₁, r₁, rfl, hread, hrun₁⟩ := Program.run_bind_at
      (P := fun r : WalletRequest => r.connection? = none) (R := fun _ => True)
      (Program.exchanges_await rfl fun _ _ => trivial) hconnects hrun
    obtain ⟨⟨contractId, derived⟩, t₂, r₂, rfl, hcontract, hrun₂⟩ := Program.run_bind_at
      (P := fun r : WalletRequest => r.connection? = none) (R := fun _ => True)
      Program.exchanges_done hconnects hrun₁
    obtain ⟨reply, rfl, hreply⟩ := Program.run_await.mp hread
    obtain rfl := Except.ok.inj hreply
    obtain ⟨rfl, hcontract'⟩ := Program.run_ofExcept.mp hcontract
    obtain ⟨rfl, candidate, birth, publicKey, hverified⟩ := connectToContract_verified hrun₂ he
    exact ⟨rfl, credential, derived, candidate, birth, publicKey, hcontract'.symm, by simp,
      hverified.mono (List.suffix_append _ _).isInfix⟩

end failsClosed

/-- An outcome that succeeds, with a request that connects. -/
def connectsSuccessfully
    (outcome : Memory.Outcome WalletEnvironment WalletStorage JsError ConnectWalletResult) : Bool :=
  outcome.result.isOk && outcome.history.any fun e => e.request.connection?.isSome

/-- The sample kit connects with the verified record of its wallet. -/
theorem sampleConnection_run : ∃ t x e target,
    Program.Run (connectWithCredentials sampleConnectionConfig (some "AQ") none none false) t x ∧
      x.isOk = true ∧ e ∈ t ∧ WalletRequest.connection? e.request = some target := by
  have hconnects : connectsSuccessfully (walletMemory.execute (sampleWorld (sampleAccount 4)).reply
      (connectWithCredentials sampleConnectionConfig (some "AQ") none none false)
      ⟨[sampleRecord], none⟩) = true := by
    decide +kernel
  have hrun := (walletMemory.run_execute (sampleWorld (sampleAccount 4)).reply
    (connectWithCredentials sampleConnectionConfig (some "AQ") none none false)
    ⟨[sampleRecord], none⟩).1
  generalize walletMemory.execute _ _ _ = outcome at hconnects hrun
  obtain ⟨hok, hany⟩ := Bool.and_eq_true_iff.mp hconnects
  obtain ⟨e, he, htarget⟩ := List.any_eq_true.mp hany
  obtain ⟨target, htarget⟩ := Option.isSome_iff_exists.mp htarget
  exact ⟨_, _, e, target, hrun, hok, he, htarget⟩

theorem connectWithCredentials_fails_closed_sample :
    ∃ before e after x target,
      Program.Run (connectWithCredentials sampleConnectionConfig (some "AQ") none none false)
        (before ++ e :: after) x ∧
      WalletRequest.connection? e.request = some target ∧ nonEmptyText (some "AQ") = some target.2 ∧
      ∃ credential derived candidate birth publicKey,
        connectionContractId sampleConnectionConfig credential target.2 none =
          .ok (target.1, derived) ∧
        (⟨.getCredential target.2, credential⟩ : Exchange WalletEnvironment) ∈ before ∧
        ConnectionVerified sampleConnectionConfig credential target.2 target.1 none candidate birth
          publicKey before := by
  obtain ⟨t, x, e, target, hrun, -, he, htarget⟩ := sampleConnection_run
  obtain ⟨before, after, rfl⟩ := List.append_of_mem he
  exact ⟨before, e, after, x, target, hrun, htarget,
    connectWithCredentials_fails_closed hrun htarget⟩

end SmartAccountKit
