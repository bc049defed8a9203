import SmartAccountKit.DeploymentHashes
import SmartAccountKit.ProvenanceTheorems

/-!
# What a deployment leaves behind

However the relayer and the network behave, a submission writes the record once,
at its end. It is deployed only with a confirmed creation, and failed with a
known hash only if the chain reported so.
-/

namespace SmartAccountKit
open Lib

/-! ## What a history shows -/

/-- A response for a transaction said that it failed. -/
def ReportedFailed (hash : String) (t : History WalletEnvironment) : Prop :=
  (⟨.pollTransaction hash, .ok .failed⟩ : Exchange WalletEnvironment) ∈ t ∨
    ∃ tx signed sent,
      (⟨.sendTransaction tx signed, .ok sent⟩ : Exchange WalletEnvironment) ∈ t ∧
      sent.hash = some hash ∧ sent.response = some .failed

theorem ReportedFailed.mono {hash : String} {t t' : History WalletEnvironment} (ht : t ⊆ t')
    (h : ReportedFailed hash t) : ReportedFailed hash t' :=
  h.imp (fun hmem => ht hmem) fun ⟨tx, signed, sent, hmem, hsent⟩ => ⟨tx, signed, sent, ht hmem, hsent⟩

/-- The transaction succeeded at a ledger, and its envelope makes the creation of the deployment
once. -/
def ConfirmedCreation (deployment : DeployTransaction) (hash : String) (ledger : JsNumber)
    (t : History WalletEnvironment) : Prop :=
  ∃ envelope create,
    (⟨.getTransaction hash, .ok (.success ledger (.ok envelope))⟩ : Exchange WalletEnvironment) ∈ t ∧
    toHex envelope.hash.1 = hash.map Char.toLower ∧
    deployment.func? = some (.createContractV2 create) ∧
    (expectedCreations create envelope.innerTransaction).length = 1

/-- A request that sends an envelope. -/
def WalletRequest.sendsEnvelope : WalletRequest → Bool
  | .sendTransaction _ _ | .relayerSendXdr _ => true
  | _ => false

/-! ## Confirmation -/

section confirmation

variable {deployment : DeployTransaction} {hash : String} {ledger : Option JsNumber}
  {t : History WalletEnvironment}

theorem deploymentCreateArgs_eq_ok {create : CreateContractArgsV2} :
    deploymentCreateArgs deployment = .ok create ↔
      deployment.func? = some (.createContractV2 create) := by
  unfold deploymentCreateArgs deploymentCreation
  rcases deployment.func? with _ | func
  · simp
  · cases func <;> simp [HostFunction.createContractV2?]

theorem confirmedTransaction_eq_ok {response : GetTransactionResponse}
    {found : JsNumber × Except JsError DecodedEnvelope}
    (h : confirmedTransaction response hash ledger = .ok found) :
    response = .success found.1 found.2 := by
  unfold confirmedTransaction at h
  split at h
  · split_ifs at h
    rw [← Except.ok.inj h]
  · exact nomatch h

theorem checkConfirmedEnvelope_eq_ok {envelope : DecodedEnvelope}
    (h : checkConfirmedEnvelope deployment hash envelope = .ok ()) :
    toHex envelope.hash.1 = hash.map Char.toLower ∧ ∃ create,
      deployment.func? = some (.createContractV2 create) ∧
        (expectedCreations create envelope.innerTransaction).length = 1 := by
  obtain ⟨hhash, hrest⟩ := throwIf_bind_eq_ok.mp h
  obtain ⟨create, hcreate, hcount⟩ := except_bind_eq_ok.mp hrest
  exact ⟨not_not.mp hhash, create, deploymentCreateArgs_eq_ok.mp hcreate,
    not_not.mp (throwIf_eq_ok.mp hcount)⟩

theorem requireCreationLedger_eq_ok {value ledger : JsNumber} :
    requireCreationLedger (some value) = .ok ledger ↔
      value = ledger ∧ ledger.isSafeInteger = true ∧ ledger.lt (.ofNat 1) = false := by
  unfold requireCreationLedger
  dsimp only
  split_ifs with h
  · refine iff_of_false (fun h => nomatch h) ?_
    rintro ⟨rfl, hsafe, hlt⟩
    simp [hsafe, hlt] at h
  · rw [not_or, Bool.not_eq_true, Bool.not_eq_false', Bool.not_eq_true] at h
    constructor
    · intro heq
      obtain rfl := Except.ok.inj heq
      exact ⟨rfl, h⟩
    · intro ⟨heq, _⟩
      rw [heq]

/-- The ledger that is confirmed is that of a transaction with the creation. -/
theorem run_confirmSent_ok {creationLedger : JsNumber}
    (h : Program.Run (confirmSent deployment hash ledger) t (.ok creationLedger)) :
    creationLedger.isSafeInteger = true ∧ creationLedger.lt (.ofNat 1) = false ∧
      ConfirmedCreation deployment hash creationLedger t := by
  obtain ⟨confirmedLedger, t₁, t₂, rfl, hconfirm, hledger⟩ := Program.run_bind_ok.mp h
  obtain ⟨outcome, hrun, houtcome⟩ := Program.run_mapError.mp hconfirm
  obtain ⟨-, hledger⟩ := Program.run_ofExcept.mp hledger
  cases outcome with
  | error e => exact nomatch houtcome
  | ok found =>
    obtain rfl := Except.ok.inj houtcome
    obtain ⟨response, t₃, t₄, rfl, hread, hrest₁⟩ := Program.run_bind_ok.mp hrun
    obtain ⟨⟨responseLedger, envelope⟩, hfound, hrest₂⟩ := Program.run_ofExcept_bind_ok.mp hrest₁
    obtain ⟨envelope', henvelope, hrest₃⟩ := Program.run_ofExcept_bind_ok.mp hrest₂
    obtain ⟨_, hchecked, hrest₄⟩ := Program.run_ofExcept_bind_ok.mp hrest₃
    obtain rfl : envelope = .ok envelope' := henvelope
    obtain ⟨reply, rfl, hreply⟩ := Program.run_await.mp hread
    obtain rfl : Except.ok response = reply := hreply
    obtain ⟨hhash, create, hcreate, hcount⟩ := checkConfirmedEnvelope_eq_ok hchecked
    obtain rfl := confirmedTransaction_eq_ok hfound
    have hvalue : requireCreationLedger (some confirmedLedger) = .ok creationLedger := by
      unfold orOther at hledger
      cases hrequired : requireCreationLedger (some confirmedLedger) with
      | error e => rw [hrequired] at hledger; exact nomatch hledger
      | ok value => rw [hrequired] at hledger; exact congrArg _ (Except.ok.inj hledger).symm
    obtain ⟨rfl, hsafe, hlt⟩ := requireCreationLedger_eq_ok.mp hvalue
    obtain rfl : confirmedLedger = responseLedger := Except.ok.inj (Program.run_pure.mp hrest₄).2
    exact ⟨hsafe, hlt, envelope', create, by simp, hhash, hcreate, hcount⟩

end confirmation

/-! ## Failures -/

/-- The errors of a program say that a transaction failed only if the chain reported it. -/
def FailsHonestly {ε α : Type} (reason : ε → DeploymentError) (p : Program WalletEnvironment ε α) :
    Prop :=
  ∀ t e hash, Program.Run p t (.error e) → reason e = .confirmation true hash →
    ∃ h, hash = some h ∧ ReportedFailed h t

section failures

variable {ε α β : Type} {reason : ε → DeploymentError}

theorem failsHonestly_bind {p : Program WalletEnvironment ε α} {f : α → Program WalletEnvironment ε β}
    (hp : FailsHonestly reason p) (hf : ∀ a, FailsHonestly reason (f a)) :
    FailsHonestly reason (Program.bind p f) := by
  intro t e hash hrun hreason
  rcases Program.run_bind.mp hrun with ⟨e', hfail, he⟩ | ⟨a, t₁, t₂, rfl, -, hsecond⟩
  · rw [← Except.error.inj he] at hfail
    exact hp t e hash hfail hreason
  · obtain ⟨h, hhash, hreported⟩ := hf a t₂ e hash hsecond hreason
    exact ⟨h, hhash, hreported.mono (List.subset_append_right t₁ t₂)⟩

theorem failsHonestly_pure {a : α} :
    FailsHonestly reason (pure a : Program WalletEnvironment ε α) :=
  fun _ _ _ hrun _ => nomatch (Program.run_pure.mp hrun).2

theorem FailsHonestly.knowing {p : Program WalletEnvironment DeploymentError α}
    (hp : FailsHonestly id p) (submittedHash : Option String) :
    FailsHonestly Prod.fst (knowing submittedHash p) := by
  intro t e hash hrun hreason
  obtain ⟨x, hrun, hx⟩ := Program.run_mapError.mp hrun
  cases x with
  | ok a => exact nomatch hx
  | error e' =>
    rw [Except.error.inj hx] at hreason
    exact hp t e' hash hrun hreason

/-- Errors of another kind. -/
theorem failsHonestly_mapOther (p : WalletProgram α) :
    FailsHonestly id (p.mapError DeploymentError.other) := by
  intro t e hash hrun hreason
  obtain ⟨x, -, hx⟩ := Program.run_mapError.mp hrun
  cases x with
  | ok a => exact nomatch hx
  | error e' =>
    rw [Except.error.inj hx] at hreason
    exact nomatch hreason

theorem orOther_ne_confirmation {x : Except JsError α} {failed : Bool} {hash : Option String} :
    orOther x ≠ .error (.confirmation failed hash) := by
  intro h
  cases x with
  | ok a => exact nomatch h
  | error e => exact nomatch Except.error.inj h

theorem failsHonestly_await {r : WalletRequest} {read : WalletReply r → Except DeploymentError α}
    (hread : ∀ reply hash, read reply ≠ .error (.confirmation true hash)) :
    FailsHonestly id (Program.await (I := WalletEnvironment) r read) := by
  intro t e hash hrun hreason
  obtain ⟨reply, -, he⟩ := Program.run_await.mp hrun
  obtain rfl : e = .confirmation true hash := hreason
  exact absurd he.symm (hread reply hash)

/-- A response that says that a transaction failed. -/
theorem confirmedResponse_failed {response : Option PollResponse} {hash : String}
    {known : Option String} (h : confirmedResponse response hash = .error (.confirmation true known)) :
    known = some hash ∧ response = some .failed := by
  match response with
  | some .failed =>
    injection h with h
    injection h with _ hknown
    exact ⟨hknown.symm, rfl⟩
  | some (.success _) => exact nomatch h
  | some .notFound => injection h with h; injection h with h; exact nomatch h
  | none => injection h with h; injection h with h; exact nomatch h

theorem pollSubmitted_failsHonestly (hash : String) : FailsHonestly id (pollSubmitted hash) := by
  intro t e known hrun hreason
  rcases Program.run_bind.mp hrun with ⟨e', hfail, he⟩ | ⟨txResult, t₁, t₂, rfl, hpoll, hrest⟩
  · rw [← Except.error.inj he] at hfail
    exact failsHonestly_await (fun _ _ => orOther_ne_confirmation) t e known hfail hreason
  · obtain ⟨reply, rfl, hreply⟩ := Program.run_await.mp hpoll
    obtain ⟨rfl, hresponse⟩ := Program.run_ofExcept.mp hrest
    obtain rfl : e = .confirmation true known := hreason
    obtain ⟨hknown, htx⟩ := confirmedResponse_failed hresponse.symm
    obtain rfl := Option.some.inj htx
    refine ⟨hash, hknown, Or.inl ?_⟩
    cases reply with
    | error e => exact nomatch hreply
    | ok response =>
      rw [← Except.ok.inj hreply]
      exact List.mem_cons_self

theorem sendDeploymentTxViaRpc_failsHonestly (tx : AssembledTransaction)
    (signed : Option SignedTransaction) : FailsHonestly id (sendDeploymentTxViaRpc tx signed) := by
  intro t e known hrun hreason
  rcases Program.run_bind.mp hrun with ⟨e', hfail, -⟩ | ⟨outcome, t₁, t₂, rfl, hsend, hrest⟩
  · obtain ⟨reply, -, hreply⟩ := Program.run_await.mp hfail
    cases hreply
  obtain ⟨reply, rfl, hreply⟩ := Program.run_await.mp hsend
  obtain rfl := Except.ok.inj hreply
  obtain rfl : e = .confirmation true known := hreason
  cases outcome with
  | error refusal =>
    cases refusal with
    | stillPending =>
      injection (Program.run_throw.mp hrest).2 with h
      injection h with h
      cases h
    | other error =>
      injection (Program.run_throw.mp hrest).2 with h
      cases h
  | ok sent =>
    dsimp only at hrest
    cases hhash : nonEmptyText sent.hash with
    | none =>
      rw [hhash] at hrest
      injection (Program.run_throw.mp hrest).2 with h
      cases h
    | some hashValue =>
      rw [hhash] at hrest
      rcases Program.run_bind.mp hrest with ⟨e', hfail, he⟩ | ⟨ledger, t₃, t₄, rfl, -, hdone⟩
      · rw [← Except.error.inj he] at hfail
        obtain ⟨rfl, hresponse⟩ := Program.run_ofExcept.mp hfail
        obtain ⟨hknown, hfailed⟩ := confirmedResponse_failed hresponse.symm
        exact ⟨hashValue, hknown, Or.inr ⟨tx, signed, sent, List.mem_cons_self,
          (nonEmptyText_eq_some.mp hhash).1, hfailed⟩⟩
      · cases (Program.run_pure.mp hdone).2

end failures

section submission

variable {config : WalletConfig} {deployment : DeployTransaction}
  {signed : Option SignedTransaction} {forceMethod : Option SubmissionMethod}
  {t : History WalletEnvironment}

theorem relayerHash_failsHonestly (relayerResult : RelayerResponse) :
    FailsHonestly id (Program.ofExcept (I := WalletEnvironment) (relayerHash relayerResult)) := by
  intro t e hash hrun hreason
  obtain ⟨-, he⟩ := Program.run_ofExcept.mp hrun
  unfold relayerHash at he
  split at he
  · exact nomatch he
  · rw [Except.error.inj he] at hreason
    exact nomatch hreason

theorem refused_failsHonestly (relayerResult : RelayerResponse) :
    FailsHonestly id
      (Program.throw (refused relayerResult) : Program WalletEnvironment DeploymentError α) := by
  intro t e hash hrun hreason
  rw [Except.error.inj (Program.run_throw.mp hrun).2] at hreason
  exact nomatch hreason

theorem relayAuthEntry_failsHonestly (func : HostFunction) (auth : List SorobanAuthorizationEntry) :
    FailsHonestly Prod.fst (relayAuthEntry func auth) := by
  refine failsHonestly_bind (FailsHonestly.knowing ?_ none) fun submittedHash => ?_
  · refine failsHonestly_bind (failsHonestly_await fun _ _ => orOther_ne_confirmation) ?_
    intro relayerResult
    split
    · exact relayerHash_failsHonestly relayerResult
    · exact refused_failsHonestly relayerResult
  · exact failsHonestly_bind ((pollSubmitted_failsHonestly submittedHash).knowing _) fun _ =>
      failsHonestly_pure

theorem relayEnvelope_failsHonestly (tx : AssembledTransaction) (signed : SignedTransaction)
    (forceMethod : Option SubmissionMethod) :
    FailsHonestly Prod.fst (relayEnvelope tx signed forceMethod) := by
  refine failsHonestly_bind (FailsHonestly.knowing (failsHonestly_await fun _ _ =>
    orOther_ne_confirmation) none) fun relayerResult => ?_
  split
  · refine failsHonestly_bind ((relayerHash_failsHonestly relayerResult).knowing none) fun hash => ?_
    exact failsHonestly_bind ((pollSubmitted_failsHonestly hash).knowing _) fun _ =>
      failsHonestly_pure
  · split
    · exact (refused_failsHonestly relayerResult).knowing none
    · exact (sendDeploymentTxViaRpc_failsHonestly tx _).knowing none

theorem submitAndConfirm_failsHonestly :
    FailsHonestly Prod.fst (submitAndConfirm config deployment signed forceMethod) := by
  refine failsHonestly_bind ?_ fun sent => ?_
  · cases deployment with
    | authEntry func auth => exact relayAuthEntry_failsHonestly func auth
    | assembled tx =>
      show FailsHonestly Prod.fst (sendEnvelope config tx signed forceMethod)
      cases signed with
      | none => exact (sendDeploymentTxViaRpc_failsHonestly tx none).knowing none
      | some envelope =>
        unfold sendEnvelope
        dsimp only
        split
        · exact relayEnvelope_failsHonestly tx envelope forceMethod
        · exact (sendDeploymentTxViaRpc_failsHonestly tx _).knowing none
  · refine failsHonestly_bind (FailsHonestly.knowing ?_ _) fun _ => failsHonestly_pure
    refine failsHonestly_bind (failsHonestly_mapOther _) fun confirmedLedger => ?_
    intro t e hash hrun hreason
    obtain rfl : e = .confirmation true hash := hreason
    exact absurd (Program.run_ofExcept.mp hrun).2.symm orOther_ne_confirmation

/-! ## What a submission asks -/

/-- The requests of a submission before it writes the record: none of them writes, and if the
deployment is an authorization entry, none sends an envelope. -/
def SubmissionAsks (deployment : DeployTransaction) (r : WalletRequest) : Prop :=
  r.isWrite = false ∧ (isAuthEntryDeployment deployment = true → r.sendsEnvelope = false)

theorem exchanges_knowing {P : WalletRequest → Prop} {α : Type}
    {p : Program WalletEnvironment DeploymentError α} (submittedHash : Option String)
    (hp : Program.Exchanges P (fun _ => True) p) :
    Program.Exchanges P (fun _ => True) (knowing submittedHash p) :=
  Program.exchanges_mapError hp

theorem pollSubmitted_asks (hash : String) :
    Program.Exchanges (SubmissionAsks deployment) (fun _ => True) (pollSubmitted hash) :=
  Program.exchanges_bind (Program.exchanges_await ⟨rfl, fun _ => rfl⟩ fun _ _ => trivial)
    fun _ _ _ => Program.exchanges_done

theorem sendDeploymentTxViaRpc_asks (tx tx' : AssembledTransaction)
    (signed : Option SignedTransaction) :
    Program.Exchanges (SubmissionAsks (.assembled tx')) (fun _ => True)
      (sendDeploymentTxViaRpc tx signed) := by
  refine Program.exchanges_bind (Program.exchanges_await ⟨rfl, nofun⟩ fun _ _ => trivial) ?_
  intro outcome _ _
  match outcome with
  | .error .stillPending => exact Program.exchanges_done
  | .error (.other _) => exact Program.exchanges_done
  | .ok sent =>
    dsimp only
    split
    · exact Program.exchanges_done
    · exact Program.exchanges_bind Program.exchanges_done fun _ _ _ => Program.exchanges_done

theorem relayEnvelope_asks (tx tx' : AssembledTransaction) (signed : SignedTransaction)
    (forceMethod : Option SubmissionMethod) :
    Program.Exchanges (SubmissionAsks (.assembled tx')) (fun _ => True)
      (relayEnvelope tx signed forceMethod) := by
  refine Program.exchanges_bind (exchanges_knowing none
    (Program.exchanges_await ⟨rfl, nofun⟩ fun _ _ => trivial)) fun relayerResult _ _ => ?_
  split
  · refine Program.exchanges_bind (exchanges_knowing none Program.exchanges_done) fun hash _ _ => ?_
    exact Program.exchanges_bind (exchanges_knowing _ (pollSubmitted_asks hash))
      fun _ _ _ => Program.exchanges_done
  · split
    · exact Program.exchanges_done
    · exact exchanges_knowing none (sendDeploymentTxViaRpc_asks tx tx' _)

theorem sendDeployment_asks :
    Program.Exchanges (SubmissionAsks deployment) (fun _ => True)
      (sendDeployment config deployment signed forceMethod) := by
  cases deployment with
  | authEntry func auth =>
    refine Program.exchanges_bind (exchanges_knowing none ?_) fun submittedHash _ _ => ?_
    · refine Program.exchanges_bind (Program.exchanges_await ⟨rfl, fun _ => rfl⟩ fun _ _ => trivial)
        fun relayerResult _ _ => ?_
      split <;> exact Program.exchanges_done
    · exact Program.exchanges_bind (exchanges_knowing _ (pollSubmitted_asks submittedHash))
        fun _ _ _ => Program.exchanges_done
  | assembled tx =>
    show Program.Exchanges _ _ (sendEnvelope config tx signed forceMethod)
    cases signed with
    | none => exact exchanges_knowing none (sendDeploymentTxViaRpc_asks tx tx none)
    | some envelope =>
      unfold sendEnvelope
      dsimp only
      split
      · exact relayEnvelope_asks tx tx envelope forceMethod
      · exact exchanges_knowing none (sendDeploymentTxViaRpc_asks tx tx _)

theorem submitAndConfirm_asks :
    Program.Exchanges (SubmissionAsks deployment) (fun _ => True)
      (submitAndConfirm config deployment signed forceMethod) := by
  refine Program.exchanges_bind sendDeployment_asks fun sent _ _ => ?_
  refine Program.exchanges_bind (exchanges_knowing _ ?_) fun _ _ _ => Program.exchanges_done
  refine Program.exchanges_bind (Program.exchanges_mapError ?_) fun _ _ _ => Program.exchanges_done
  refine Program.exchanges_bind (Program.exchanges_await ⟨rfl, fun _ => rfl⟩ fun _ _ => trivial)
    fun _ _ _ => ?_
  refine Program.exchanges_ofExcept_bind fun _ _ => ?_
  refine Program.exchanges_ofExcept_bind fun _ _ => ?_
  exact Program.exchanges_ofExcept_bind fun _ _ => Program.exchanges_done

end submission

/-! ## What a submission leaves -/

/-- What a submission that ends with a result has written into the record, given what was exchanged
before. It knows the hash of a transaction exactly where one was accepted. -/
def DeploymentRecorded (deployment : DeployTransaction) (updates : CredentialUpdates)
    (t : History WalletEnvironment) : DeploymentResult → Prop
  | .success hash ledger =>
    acceptedHashes t = [hash] ∧ updates.deploymentStatus = some .deployed ∧
      updates.creationTransactionHash = some hash ∧
      updates.deploymentTransactionHash = some hash ∧ updates.creationLedger = some ledger ∧
      ledger.isSafeInteger = true ∧ ledger.lt (.ofNat 1) = false ∧
      ConfirmedCreation deployment hash ledger t
  | .failure _ none =>
    acceptedHashes t = [] ∧ updates.creationTransactionHash = none ∧ updates.creationLedger = none ∧
      updates.deploymentTransactionHash = none ∧
      (updates.deploymentStatus = some .failed ∨ updates.deploymentStatus = some .pending)
  | .failure _ (some hash) =>
    acceptedHashes t = [hash] ∧ updates.creationTransactionHash = none ∧
      updates.creationLedger = none ∧ updates.deploymentTransactionHash = some hash ∧
      (updates.deploymentStatus = some .failed ∧ ReportedFailed hash t ∨
        updates.deploymentStatus = some .pending)

/-- A submission that its route refuses does nothing. Any other ends with a result, and writes the
record once, at its end, as the result says. With the shared deployer it sends no envelope. -/
def SubmissionSettled (config : WalletConfig) (deployment : DeployTransaction)
    (credentialId : String) (forceMethod : Option SubmissionMethod) (t : History WalletEnvironment)
    (x : Except JsError DeploymentResult) : Prop :=
  (∃ e, checkRoute config deployment forceMethod = .error e ∧ x = .error e ∧ t = []) ∨
    checkRoute config deployment forceMethod = .ok () ∧ ∃ before updates result,
      t = before ++ [⟨.updateCredential credentialId updates, ()⟩] ∧ x = .ok result ∧
      (∀ e ∈ before, WalletRequest.isWrite e.request = false) ∧
      DeploymentRecorded deployment updates before result ∧
      (config.usingSharedDeployer = true →
        ∀ e ∈ t, WalletRequest.sendsEnvelope e.request = false)

section outcome

variable {config : WalletConfig} {deployment : DeployTransaction}
  {signed : Option SignedTransaction} {forceMethod : Option SubmissionMethod}
  {t : History WalletEnvironment}

/-- A stop leaves a deployment failed with a known hash only if the chain reported it. -/
theorem SubmissionStop.status (stop : SubmissionStop) (hash : String)
    (hknown : stop.knownHash = some hash)
    (hhonest : ∀ known, stop.1 = .confirmation true known →
      ∃ h, known = some h ∧ ReportedFailed h t) :
    stop.deploymentStatus = .failed ∧ ReportedFailed hash t ∨ stop.deploymentStatus = .pending := by
  match stop with
  | (.confirmation false known, submittedHash) => exact Or.inr rfl
  | (.other error, submittedHash) =>
    right
    rw [SubmissionStop.deploymentStatus, hknown]
    rfl
  | (.confirmation true known, submittedHash) =>
    obtain ⟨h, rfl, hreported⟩ := hhonest known rfl
    obtain rfl : h = hash := Option.some.inj (nonEmptyText_eq_some.mp hknown).1
    exact Or.inl ⟨rfl, hreported⟩

theorem SubmissionStop.deploymentStatus_or (stop : SubmissionStop) :
    stop.deploymentStatus = .failed ∨ stop.deploymentStatus = .pending := by
  match stop with
  | (.confirmation true known, submittedHash) => exact Or.inl rfl
  | (.confirmation false known, submittedHash) => exact Or.inr rfl
  | (.other error, submittedHash) =>
    unfold SubmissionStop.deploymentStatus
    dsimp only
    split
    · exact Or.inr rfl
    · exact Or.inl rfl

/-- What a submission writes fits what it returns and what it exchanged. -/
theorem run_submitAndConfirm {outcome : Except SubmissionStop (String × JsNumber)}
    (hrun : Program.Run (submitAndConfirm config deployment signed forceMethod) t outcome) :
    DeploymentRecorded deployment (submissionUpdates outcome) t (submissionResult outcome) := by
  have hknows := submitAndConfirm_knowsHash config deployment signed forceMethod t outcome hrun
  cases outcome with
  | ok confirmed =>
    obtain ⟨⟨hashValue, ledger⟩, t₁, t₂, rfl, -, hrest⟩ := Program.run_bind_ok.mp hrun
    obtain ⟨creationLedger, t₃, t₄, rfl, hconfirm, hdone⟩ := Program.run_bind_ok.mp hrest
    obtain rfl := Except.ok.inj (Program.run_pure.mp hdone).2
    obtain ⟨x, hconfirm, hx⟩ := Program.run_mapError.mp hconfirm
    cases x with
    | error e => exact nomatch hx
    | ok value =>
      obtain rfl := Except.ok.inj hx
      obtain ⟨hsafe, hlt, envelope, create, hmem, hcreation⟩ := run_confirmSent_ok hconfirm
      exact ⟨hknows, rfl, rfl, rfl, rfl, hsafe, hlt, envelope, create, by simp [hmem], hcreation⟩
  | error stop =>
    have hhonest := fun known => submitAndConfirm_failsHonestly t stop known hrun
    unfold submissionResult submissionUpdates
    dsimp only
    rw [outcomeHash] at hknows
    cases hknown : stop.knownHash with
    | none =>
      rw [hknown] at hknows
      exact ⟨hknows, rfl, rfl, rfl, stop.deploymentStatus_or.imp (congrArg some) (congrArg some)⟩
    | some hash =>
      rw [hknown] at hknows
      refine ⟨hknows, rfl, rfl, rfl, ?_⟩
      refine (stop.status hash hknown hhonest).imp ?_ (congrArg some)
      exact And.imp_left (congrArg some)

/-- A submission is refused by its route, or runs and writes its outcome into the record. -/
theorem run_submitDeploymentTx {credentialId : String} {x : Except JsError DeploymentResult}
    (hrun : Program.Run (submitDeploymentTx config deployment signed credentialId forceMethod) t x) :
    (∃ e, checkRoute config deployment forceMethod = .error e ∧ x = .error e ∧ t = []) ∨
      checkRoute config deployment forceMethod = .ok () ∧ ∃ before outcome,
        t = before ++ [⟨.updateCredential credentialId (submissionUpdates outcome), ()⟩] ∧
        x = .ok (submissionResult outcome) ∧
        Program.Run (submitAndConfirm config deployment signed forceMethod) before outcome := by
  rcases Program.run_bind.mp hrun with ⟨e, hrefused, rfl⟩ | ⟨_, t₁, t₂, rfl, hallowed, hrest⟩
  · obtain ⟨rfl, he⟩ := Program.run_ofExcept.mp hrefused
    exact Or.inl ⟨e, he.symm, rfl, rfl⟩
  obtain ⟨rfl, hroute⟩ := Program.run_ofExcept.mp hallowed
  rcases Program.run_bind.mp hrest with ⟨e, hfail, -⟩ | ⟨outcome, t₃, t₄, rfl, hattempt, hrest₁⟩
  · obtain ⟨_, -, hok⟩ := Program.run_attempt.mp hfail
    exact nomatch hok
  obtain ⟨outcome', hsubmit, hok⟩ := Program.run_attempt.mp hattempt
  obtain rfl := Except.ok.inj hok
  rcases Program.run_bind.mp hrest₁ with ⟨e, hfail, -⟩ | ⟨_, t₅, t₆, rfl, hwrite, hdone⟩
  · obtain ⟨_, -, hok⟩ := Program.run_await.mp hfail
    exact nomatch hok
  obtain ⟨_, rfl, -⟩ := Program.run_await.mp hwrite
  obtain ⟨rfl, rfl⟩ := Program.run_pure.mp hdone
  exact Or.inr ⟨hroute.symm, t₃, outcome, rfl, rfl, hsubmit⟩

theorem submitDeploymentTx_settled {credentialId : String} {x : Except JsError DeploymentResult}
    (hrun : Program.Run (submitDeploymentTx config deployment signed credentialId forceMethod) t x) :
    SubmissionSettled config deployment credentialId forceMethod t x := by
  rcases run_submitDeploymentTx hrun with hrefused | ⟨hroute, before, outcome, rfl, rfl, hsubmit⟩
  · exact Or.inl hrefused
  have hasks := submitAndConfirm_asks before _ hsubmit
  refine Or.inr ⟨hroute, before, _, _, rfl, rfl, fun e he => (hasks e he).1.1,
    run_submitAndConfirm hsubmit, fun hshared e he => ?_⟩
  have hauth : isAuthEntryDeployment deployment = true := by
    by_contra hne
    have hrefuses : checkRoute config deployment forceMethod =
        .error (sharedDeployerFeeError config.deployerPublicKey) :=
      if_pos ⟨hshared, Or.inl (by simpa using hne)⟩
    rw [hrefuses] at hroute
    exact nomatch hroute
  rcases List.mem_append.mp he with hbefore | hwritten
  · exact (hasks e hbefore).1.2 hauth
  · rw [List.mem_singleton.mp hwritten]
    rfl

end outcome

/-- A kit with a deployer of its own and no relayer. -/
def sampleWalletConfig : WalletConfig :=
  { sampleConnectionConfig with
    accountWasmHash := toHex (List.replicate 32 13)
    authDigestSchemes := [(toHex (List.replicate 32 13), .legacyConcat)]
    usingSharedDeployer := false
    hasRelayer := false }

/-- A kit with the shared deployer and a relayer. -/
def sampleSharedConfig : WalletConfig :=
  { sampleWalletConfig with usingSharedDeployer := true, hasRelayer := true }

/-- A deployment that the relayer submits. -/
def sampleSharedDeployment : DeployTransaction :=
  .authEntry (.createContractV2 (sampleCreation (sampleAccount 4))) []

/-- The hash of its transaction. -/
def sampleSharedHash : String := toHex sampleTransactionHash.1

theorem sampleSharedHash_given : nonEmptyText (some sampleSharedHash) = some sampleSharedHash :=
  nonEmptyText_some (isHashHex_toHex sampleTransactionHash).ne_empty

/-- What is exchanged while it is submitted and confirmed. -/
def sampleSharedSubmission : History WalletEnvironment :=
  [⟨.relayerSend (.createContractV2 (sampleCreation (sampleAccount 4))) [],
      .ok { success := true, hash := some sampleSharedHash, error := none }⟩,
    ⟨.pollTransaction sampleSharedHash, .ok (.success (some (.ofNat 40)))⟩,
    ⟨.getTransaction sampleSharedHash,
      .ok (.success (.ofNat 40) (.ok (sampleCreationEnvelope (sampleAccount 4))))⟩]

theorem sampleSharedSubmission_run :
    Program.Run (submitAndConfirm sampleSharedConfig sampleSharedDeployment none none)
      sampleSharedSubmission (.ok (sampleSharedHash, .ofNat 40)) := by
  have hcreations : expectedCreations (sampleCreation (sampleAccount 4))
      (sampleCreationEnvelope (sampleAccount 4)).innerTransaction =
      [sampleCreation (sampleAccount 4)] := by
    have hown : ((sampleCreation (sampleAccount 4)).toXDR ==
        (sampleCreation (sampleAccount 4)).toXDR) = true := beq_self_eq_true _
    exact List.filter_cons_of_pos hown
  have hchecked : checkConfirmedEnvelope sampleSharedDeployment sampleSharedHash
      (sampleCreationEnvelope (sampleAccount 4)) = .ok () := by
    refine throwIf_bind_eq_ok.mpr ⟨not_not.mpr (toHex_map_toLower _).symm, ?_⟩
    refine except_bind_eq_ok.mpr ⟨_, rfl, throwIf_eq_ok.mpr ?_⟩
    rw [hcreations, not_not]
    rfl
  have hsend : Program.Run (sendDeployment sampleSharedConfig sampleSharedDeployment none none)
      (sampleSharedSubmission.take 2) (.ok (sampleSharedHash, some (.ofNat 40))) := by
    refine Program.run_bind_ok.mpr ⟨sampleSharedHash, [_], [_], rfl,
      Program.run_mapError.mpr ⟨.ok sampleSharedHash, ?_, rfl⟩, ?_⟩
    · refine Program.run_bind_ok.mpr ⟨_, [_], [], rfl, Program.run_await.mpr ⟨_, rfl, rfl⟩, ?_⟩
      exact Program.run_ofExcept.mpr ⟨rfl, (relayerHash_eq_ok.mpr sampleSharedHash_given).symm⟩
    · refine Program.run_bind_ok.mpr ⟨some (.ofNat 40), [_], [], rfl,
        Program.run_mapError.mpr ⟨.ok (some (.ofNat 40)), ?_, rfl⟩, Program.run_pure.mpr ⟨rfl, rfl⟩⟩
      exact Program.run_bind_ok.mpr ⟨.success (some (.ofNat 40)), [_], [], rfl,
        Program.run_await.mpr ⟨_, rfl, rfl⟩, Program.run_ofExcept.mpr ⟨rfl, rfl⟩⟩
  refine Program.run_bind_ok.mpr ⟨_, sampleSharedSubmission.take 2, sampleSharedSubmission.drop 2,
    (List.take_append_drop 2 _).symm, hsend, ?_⟩
  refine Program.run_bind_ok.mpr ⟨.ofNat 40, [_], [], rfl,
    Program.run_mapError.mpr ⟨.ok (.ofNat 40), ?_, rfl⟩, Program.run_pure.mpr ⟨rfl, rfl⟩⟩
  refine Program.run_bind_ok.mpr ⟨.ofNat 40, [_], [], rfl,
    Program.run_mapError.mpr ⟨.ok (.ofNat 40), ?_, rfl⟩, Program.run_ofExcept.mpr ⟨rfl, rfl⟩⟩
  refine Program.run_bind_ok.mpr ⟨_, [_], [], rfl, Program.run_await.mpr ⟨_, rfl, rfl⟩, ?_⟩
  refine Program.run_ofExcept_bind_ok.mpr ⟨(.ofNat 40, .ok (sampleCreationEnvelope (sampleAccount 4))),
    rfl, ?_⟩
  refine Program.run_ofExcept_bind_ok.mpr ⟨sampleCreationEnvelope (sampleAccount 4), rfl, ?_⟩
  exact Program.run_ofExcept_bind_ok.mpr ⟨(), hchecked, Program.run_pure.mpr ⟨rfl, rfl⟩⟩

/-- A submission that is not refused runs and writes its outcome. -/
theorem submitDeploymentTx_run {config : WalletConfig} {deployment : DeployTransaction}
    {signed : Option SignedTransaction} {forceMethod : Option SubmissionMethod}
    {credentialId : String} {t : History WalletEnvironment}
    {outcome : Except SubmissionStop (String × JsNumber)}
    (hroute : checkRoute config deployment forceMethod = .ok ())
    (hrun : Program.Run (submitAndConfirm config deployment signed forceMethod) t outcome) :
    Program.Run (submitDeploymentTx config deployment signed credentialId forceMethod)
      (t ++ [⟨.updateCredential credentialId (submissionUpdates outcome), ()⟩])
      (.ok (submissionResult outcome)) := by
  refine Program.run_ofExcept_bind_ok.mpr ⟨(), hroute, ?_⟩
  refine Program.run_bind_ok.mpr
    ⟨outcome, t, [_], rfl, Program.run_attempt.mpr ⟨outcome, hrun, rfl⟩, ?_⟩
  exact Program.run_bind_ok.mpr
    ⟨(), [_], [], rfl, Program.run_await.mpr ⟨(), rfl, rfl⟩, Program.run_pure.mpr ⟨rfl, rfl⟩⟩

/-- A deployment that the relayer submits and that is confirmed, and one that is sent over the
network and fails on the chain. -/
theorem submitDeploymentTx_settled_sample :
    SubmissionSettled sampleSharedConfig sampleSharedDeployment "AQ" none
      (sampleSharedSubmission ++
        [⟨.updateCredential "AQ" (submissionUpdates (.ok (sampleSharedHash, .ofNat 40))), ()⟩])
      (.ok (.success sampleSharedHash (.ofNat 40))) ∧
    SubmissionSettled sampleWalletConfig (.assembled (sampleWorld (sampleAccount 4)).simulated) "AQ"
      none
      [⟨.sendTransaction (sampleWorld (sampleAccount 4)).simulated none, .ok
          { hash := some "ab", response := some .failed }⟩,
        ⟨.updateCredential "AQ"
          { deploymentStatus := some .failed
            deploymentError := some (some "Transaction failed on-chain")
            deploymentTransactionHash := some "ab" }, ()⟩]
      (.ok (.failure (deploymentFailure (JsError.plain "Transaction failed on-chain"))
        (some "ab"))) := by
  have hfailed : Program.Run (submitAndConfirm sampleWalletConfig
      (.assembled (sampleWorld (sampleAccount 4)).simulated) none none)
      [⟨.sendTransaction (sampleWorld (sampleAccount 4)).simulated none, .ok
        { hash := some "ab", response := some .failed }⟩]
      (.error (.confirmation true (some "ab"), none)) :=
    Program.Run.ask _ _ _ _ _ (Program.Run.done _)
  refine ⟨submitDeploymentTx_settled (submitDeploymentTx_run rfl sampleSharedSubmission_run), ?_⟩
  exact submitDeploymentTx_settled (submitDeploymentTx_run rfl hfailed)

end SmartAccountKit
