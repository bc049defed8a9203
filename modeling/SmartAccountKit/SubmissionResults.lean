import SmartAccountKit.Lib.Failures
import SmartAccountKit.MultiSignerGuard
import SmartAccountKit.SigningRequests

/-!
# What a submission resolves to

The methods that submit a transaction return its result, and report a failure of
a step inside their `try` as a failed transaction. They do not wait for the
submission there, and `sendAndPoll` has no `try`: where a call of it is rejected, the
method rejects. The checks of a selection stand before the `try`, so the method also
rejects where one of them throws.
-/

namespace SmartAccountKit
open Lib

/-! ## The methods -/

/-- A call of a method that submits a transaction. -/
inductive SubmissionCall where
  | signAndSubmit (call : ContractCall) (options : SignAndSubmitOptions)
  | signAndSubmitAdmin (call : ContractCall) (options : SignAndSubmitOptions)
  | transfer (args : TransferArgs) (options : SignAndSubmitOptions)
  | operation (built : Option BuiltTransaction) (selectedSigners : List SelectedSigner)
      (options : MultiSignerOptions)
  | adminOperation (built : Option BuiltTransaction) (selectedSigners : List SelectedSigner)
      (options : MultiSignerOptions)
  | multiSignerTransfer (args : TransferArgs) (selectedSigners : List SelectedSigner)
      (options : MultiSignerOptions)

/-- The method, down to its network calls. -/
def SubmissionCall.program (config : KitConfig) : SubmissionCall → NetworkProgram TransactionResult
  | signAndSubmit call options =>
    Program.through config.network (SmartAccountKit.signAndSubmit config call options)
  | signAndSubmitAdmin call options =>
    Program.through config.network (SmartAccountKit.signAndSubmitAdmin config call options)
  | transfer args options => SmartAccountKit.transfer config args options
  | operation built selectedSigners options =>
    Program.through config.network
      (SmartAccountKit.operation config built selectedSigners options)
  | adminOperation built selectedSigners options =>
    Program.through config.network
      (SmartAccountKit.adminOperation config built selectedSigners options)
  | multiSignerTransfer args selectedSigners options =>
    MultiSignerManager.transfer config args selectedSigners options

/-! ## Rejections -/

/-- The calls that send a transaction and poll it. -/
def NetworkRequest.isSend : NetworkRequest → Bool
  | .relayerSend _ _ | .sendTransaction _ | .pollTransaction _ => true
  | _ => false

/-- A call that sends or polls a transaction was rejected. -/
def SendRejected (e : Exchange Network) : Prop :=
  match e with
  | ⟨.relayerSend _ _, reply⟩ => reply.isOk = false
  | ⟨.sendTransaction _, reply⟩ => reply.isOk = false
  | ⟨.pollTransaction _, reply⟩ => reply.isOk = false
  | _ => False

theorem SendRejected.isSend {e : Exchange Network} (h : SendRejected e) :
    e.request.isSend = true := by
  unfold SendRejected at h
  split at h
  · rfl
  · rfl
  · rfl
  · exact h.elim

/-- The log or the adapter of the external signers threw in a check of the selection. -/
def CheckThrew (e : Exchange Network) : Prop :=
  match e with
  | ⟨.kit (.onLog .selection _), reply⟩ => reply.isOk = false
  | ⟨.kit (.canSignFor .selection _), reply⟩ => reply.isOk = false
  | ⟨.kit (.canSignEd25519 .selection _), reply⟩ => reply.isOk = false
  | _ => False

/-- A request that the methods make outside their `try`: the submission, and the checks of a
selection. -/
def Request.isUncaught : Request → Bool
  | .sendAndPoll _ _ => true
  | .onLog stage _ | .canSignFor stage _ | .canSignEd25519 stage _ => stage == .selection
  | _ => false

/-- A request outside the `try` was rejected. -/
def UncaughtRejected (e : Exchange Environment) : Prop :=
  match e with
  | ⟨.sendAndPoll _ _, reply⟩ => reply.isOk = false
  | ⟨.onLog .selection _, reply⟩ => reply.isOk = false
  | ⟨.canSignFor .selection _, reply⟩ => reply.isOk = false
  | ⟨.canSignEd25519 .selection _, reply⟩ => reply.isOk = false
  | _ => False

theorem UncaughtRejected.isUncaught {e : Exchange Environment} (h : UncaughtRejected e) :
    e.request.isUncaught = true := by
  unfold UncaughtRejected at h
  split at h
  · rfl
  · rfl
  · rfl
  · rfl
  · exact h.elim

theorem isUncaught_eq_false {request : Request} (h : request.isSigning = true) :
    request.isUncaught = false := by
  cases request with
  | sendAndPoll _ _ => exact absurd h Bool.false_ne_true
  | onLog stage _ => cases stage <;> first | rfl | exact absurd h (by simp [Request.isSigning])
  | canSignFor stage _ => cases stage <;> first | rfl | exact absurd h (by simp [Request.isSigning])
  | canSignEd25519 stage _ =>
    cases stage <;> first | rfl | exact absurd h (by simp [Request.isSigning])
  | _ => rfl

/-! ## Sending -/

/-- Reading a reply as it is fails exactly where the reply is a rejection. -/
theorem isOk_iff_not_eq_false {α : Type} (x : Except JsError α) :
    (id x).isOk = true ↔ ¬x.isOk = false := by
  rw [Bool.not_eq_false]
  exact Iff.rfl

theorem failsExactly_sendByMethod (config : KitConfig) (transaction : Transaction)
    (forceMethod : Option SubmissionMethod) :
    Program.FailsExactly SendRejected (sendByMethod config transaction forceMethod) := by
  unfold sendByMethod
  cases config.getSubmissionMethod forceMethod with
  | rpc =>
    apply Program.FailsExactly.bind
    · exact Program.failsExactly_await fun reply => isOk_iff_not_eq_false reply
    · intro response
      cases response <;> exact Program.failsExactly_pure _
  | relayer =>
    show Program.FailsExactly SendRejected (sendToRelayer config transaction)
    unfold sendToRelayer
    by_cases hrelayer : (!config.hasRelayer) = true
    · rw [if_pos hrelayer]
      exact Program.failsExactly_pure _
    · rw [if_neg hrelayer]
      apply Program.FailsExactly.bind
      · exact Program.failsExactly_await fun reply => isOk_iff_not_eq_false reply
      · intro relayerResult
        split_ifs
        · exact Program.failsExactly_pure _
        · split <;> exact Program.failsExactly_pure _

/-- A submission asks for nothing but its calls. -/
theorem sendAndPoll_asks (config : KitConfig) (transaction : Transaction)
    (forceMethod : Option SubmissionMethod) :
    Program.OnlyAsks (fun request : NetworkRequest => request.isSend = true)
      (sendAndPoll config transaction forceMethod) := by
  apply Program.OnlyAsks.bind
  · unfold sendByMethod
    cases config.getSubmissionMethod forceMethod with
    | rpc =>
      apply Program.OnlyAsks.bind
      · exact Program.onlyAsks_await rfl
      · intro response
        cases response <;> exact Program.exchanges_done
    | relayer =>
      show Program.OnlyAsks _ (sendToRelayer config transaction)
      unfold sendToRelayer
      by_cases hrelayer : (!config.hasRelayer) = true
      · rw [if_pos hrelayer]
        exact Program.exchanges_done
      · rw [if_neg hrelayer]
        apply Program.OnlyAsks.bind
        · exact Program.onlyAsks_await rfl
        · intro relayerResult
          split_ifs
          · exact Program.exchanges_done
          · split <;> exact Program.exchanges_done
  · intro sent
    cases sent with
    | error failure => exact Program.exchanges_done
    | ok hash =>
      apply Program.OnlyAsks.bind
      · exact Program.onlyAsks_await rfl
      · intro response
        cases response <;> exact Program.exchanges_done

theorem failsExactly_sendAndPoll (config : KitConfig) (transaction : Transaction)
    (forceMethod : Option SubmissionMethod) :
    Program.FailsExactly SendRejected (sendAndPoll config transaction forceMethod) := by
  apply Program.FailsExactly.bind (failsExactly_sendByMethod config transaction forceMethod)
  intro sent
  cases sent with
  | error failure => exact Program.failsExactly_pure failure
  | ok hash =>
    apply Program.FailsExactly.bind
    · exact Program.failsExactly_await fun reply => isOk_iff_not_eq_false reply
    · intro response
      cases response <;> exact Program.failsExactly_pure _

/-- A success is one that a poll has confirmed. -/
def Confirmed (u : History Network) (result : TransactionResult) : Prop :=
  ∀ hash ledger, result = .success hash ledger →
    (⟨.pollTransaction hash, .ok (.success ledger)⟩ : Exchange Network) ∈ u

theorem Confirmed.mono {u u' : History Network} {result : TransactionResult}
    (h : Confirmed u result) (hsubset : u ⊆ u') : Confirmed u' result :=
  fun hash ledger hresult => hsubset (h hash ledger hresult)

theorem confirmed_failure (u : History Network) (error : JsError) (hash : Option String) :
    Confirmed u (.failure error hash) :=
  fun _ _ h => nomatch h

theorem confirmed_pollSent {hash : String} {u : History Network} {result : TransactionResult}
    (hrun : Program.Run (pollSent hash) u (.ok result)) : Confirmed u result := by
  obtain ⟨response, u₁, u₂, rfl, hpolled, hlast⟩ := Program.run_bind_ok.mp hrun
  obtain ⟨reply, rfl, hreply⟩ := Program.run_await.mp hpolled
  have hreply : Except.ok response = reply := hreply
  subst hreply
  cases response with
  | success ledger =>
    have hresult := Except.ok.inj (Program.run_pure.mp hlast).2
    intro hash' ledger' hsuccess
    rw [hsuccess, TransactionResult.success.injEq] at hresult
    rw [hresult.1, hresult.2]
    exact List.mem_append_left _ (List.mem_singleton_self _)
  | failed resultXdr =>
    rw [Except.ok.inj (Program.run_pure.mp hlast).2]
    exact confirmed_failure _ _ _
  | notFound =>
    rw [Except.ok.inj (Program.run_pure.mp hlast).2]
    exact confirmed_failure _ _ _

/-- What `sendByMethod` reports is a failure. -/
theorem sendByMethod_failure {config : KitConfig} {transaction : Transaction}
    {forceMethod : Option SubmissionMethod} {u : History Network} {result : TransactionResult}
    (hrun : Program.Run (sendByMethod config transaction forceMethod) u (.ok (.error result))) :
    ∃ error hash, result = .failure error hash := by
  unfold sendByMethod at hrun
  cases hmethod : config.getSubmissionMethod forceMethod with
  | rpc =>
    rw [hmethod] at hrun
    obtain ⟨response, _, _, -, -, hlast⟩ := Program.run_bind_ok.mp hrun
    cases response with
    | error hash errorResult =>
      have hresult := Except.ok.inj (Program.run_pure.mp hlast).2
      exact ⟨_, _, Except.error.inj hresult⟩
    | accepted hash => exact nomatch Except.ok.inj (Program.run_pure.mp hlast).2
  | relayer =>
    rw [hmethod] at hrun
    change Program.Run (sendToRelayer config transaction) u _ at hrun
    unfold sendToRelayer at hrun
    split_ifs at hrun
    · have hresult := Except.ok.inj (Program.run_pure.mp hrun).2
      exact ⟨_, _, Except.error.inj hresult⟩
    · obtain ⟨relayerResult, _, _, -, -, hlast⟩ := Program.run_bind_ok.mp hrun
      split_ifs at hlast
      · have hresult := Except.ok.inj (Program.run_pure.mp hlast).2
        exact ⟨_, _, Except.error.inj hresult⟩
      · split at hlast
        · exact nomatch Except.ok.inj (Program.run_pure.mp hlast).2
        · have hresult := Except.ok.inj (Program.run_pure.mp hlast).2
          exact ⟨_, _, Except.error.inj hresult⟩

theorem confirmed_sendAndPoll {config : KitConfig} {transaction : Transaction}
    {forceMethod : Option SubmissionMethod} {u : History Network} {result : TransactionResult}
    (hrun : Program.Run (sendAndPoll config transaction forceMethod) u (.ok result)) :
    Confirmed u result := by
  obtain ⟨sent, u₁, u₂, rfl, hsent, hlast⟩ := Program.run_bind_ok.mp hrun
  cases sent with
  | error failure =>
    obtain ⟨error, hash, rfl⟩ := sendByMethod_failure hsent
    rw [Except.ok.inj (Program.run_pure.mp hlast).2]
    exact confirmed_failure _ _ _
  | ok hash =>
    have hpolled : Confirmed u₂ result := confirmed_pollSent hlast
    exact hpolled.mono (List.subset_append_right u₁ u₂)

/-! ## The requests of the kit over the network -/

/-- A request that is no submission is asked as it is. -/
theorem network_eq_await (config : KitConfig) {request : Request}
    (h : request.kind ≠ .submission) :
    config.network request = Program.await (I := Network) (.kit request) .ok := by
  cases request <;> first | rfl | exact absurd rfl h

/-- A check of a selection sends nothing. -/
theorem CheckThrew.isSend {e : Exchange Network} (h : CheckThrew e) :
    e.request.isSend = false := by
  unfold CheckThrew at h
  split at h
  · rfl
  · rfl
  · rfl
  · exact h.elim

/-- What is rejected outside the `try` and is no submission is a check. -/
theorem UncaughtRejected.checkThrew {e : Exchange Environment} (h : UncaughtRejected e)
    (hkind : e.request.kind ≠ .submission) : CheckThrew ⟨.kit e.request, e.reply⟩ := by
  unfold UncaughtRejected at h
  split at h
  · exact absurd rfl hkind
  · exact h
  · exact h
  · exact h
  · exact h.elim

theorem CheckThrew.uncaught {e : Exchange Environment}
    (h : CheckThrew ⟨.kit e.request, e.reply⟩) : UncaughtRejected e := by
  obtain ⟨request, reply⟩ := e
  cases request with
  | onLog stage _ => cases stage <;> exact h
  | canSignFor stage _ => cases stage <;> exact h
  | canSignEd25519 stage _ => cases stage <;> exact h
  | _ => exact h.elim

/-- A submission is the call of `sendAndPoll`, with the result or the rejection it ends with. -/
theorem run_network_submission {config : KitConfig} {transaction : Transaction}
    {forceMethod : Option SubmissionMethod} {u : History Network}
    {reply : Except JsError TransactionResult}
    (hrun : Program.Run (config.network (.sendAndPoll transaction forceMethod)) u (.ok reply)) :
    ∃ u', u = ⟨.sendAndPoll transaction forceMethod, ()⟩ :: u' ∧
      Program.Run (sendAndPoll config transaction forceMethod) u' reply := by
  obtain ⟨_, u₁, u', rfl, hcalled, hsent⟩ := Program.run_bind_ok.mp hrun
  obtain ⟨reply', rfl, -⟩ := Program.run_await.mp hcalled
  obtain ⟨reply', hsent, hreply⟩ := Program.run_attempt.mp hsent
  rw [← Except.ok.inj hreply] at hsent
  exact ⟨u', rfl, hsent⟩

/-- A request outside the `try` is rejected exactly where a call that sends or polls is rejected, or
a check of the selection throws. -/
theorem network_rejects_iff (config : KitConfig) (e : Exchange Environment) (u : History Network)
    (hrun : Program.Run (config.network e.request) u (.ok e.reply)) :
    ¬UncaughtRejected e ↔ ∀ e' ∈ u, ¬(SendRejected e' ∨ CheckThrew e') := by
  by_cases hkind : e.request.kind = .submission
  · obtain ⟨request, reply⟩ := e
    cases request with
    | sendAndPoll transaction forceMethod =>
      obtain ⟨u', rfl, hsent⟩ := run_network_submission hrun
      have hfails := failsExactly_sendAndPoll config transaction forceMethod u' reply hsent
      have hcall : ¬(SendRejected ⟨.sendAndPoll transaction forceMethod, ()⟩ ∨
          CheckThrew ⟨.sendAndPoll transaction forceMethod, ()⟩) := fun h => h.elim id id
      have hasks := sendAndPoll_asks config transaction forceMethod u' reply hsent
      have hsame : (∀ e' ∈ u', ¬(SendRejected e' ∨ CheckThrew e')) ↔ ∀ e' ∈ u', ¬SendRejected e' := by
        refine forall₂_congr fun e' he' => not_congr (or_iff_left fun hthrew => ?_)
        have hcheck := hthrew.isSend
        rw [(hasks e' he').1] at hcheck
        exact absurd hcheck (by decide)
      rw [List.forall_mem_cons, hsame, ← hfails]
      show ¬reply.isOk = false ↔ _
      rw [Bool.not_eq_false]
      exact (and_iff_right hcall).symm
    | _ => exact RequestKind.noConfusion hkind
  · rw [network_eq_await config hkind] at hrun
    obtain ⟨reply, rfl, hreply⟩ := Program.run_await.mp hrun
    obtain rfl := Except.ok.inj hreply
    rw [List.forall_mem_singleton]
    refine not_congr ⟨fun h => ?_, fun h => ?_⟩
    · exact Or.inr (h.checkThrew hkind)
    · rcases h with hsend | hthrew
      · exact absurd hsend.isSend Bool.false_ne_true
      · exact hthrew.uncaught

/-! ## The methods -/

/-- A program of the kit that rejects exactly where a request outside its `try` does, and whose
success is that of a submission. -/
structure ReturnsSubmission (p : KitProgram TransactionResult) : Prop where
  fails : Program.FailsExactly UncaughtRejected p
  success : ∀ t hash ledger, Program.Run p t (.ok (.success hash ledger)) →
    ∃ transaction forceMethod,
      (⟨.sendAndPoll transaction forceMethod, .ok (.success hash ledger)⟩ :
        Exchange Environment) ∈ t

theorem returnsSubmission_failure (error : JsError) :
    ReturnsSubmission (pure (.failure error)) where
  fails := Program.failsExactly_pure _
  success t hash ledger hrun := by
    have hresult := Except.ok.inj (Program.run_pure.mp hrun).2
    exact nomatch hresult

theorem returnsSubmission_sendAndPoll (transaction : Transaction)
    (forceMethod : Option SubmissionMethod) :
    ReturnsSubmission (Program.await (.sendAndPoll transaction forceMethod) id) where
  fails := Program.failsExactly_await fun reply => isOk_iff_not_eq_false reply
  success t hash ledger hrun := by
    obtain ⟨reply, rfl, hreply⟩ := Program.run_await.mp hrun
    have hreply : Except.ok (.success hash ledger) = reply := hreply
    subst hreply
    exact ⟨transaction, forceMethod, List.mem_singleton_self _⟩

/-- The submission of a transaction whose preparation is in a `try`. -/
theorem returnsSubmission_attempt {p : KitProgram Transaction}
    {f : Except JsError Transaction → KitProgram TransactionResult}
    (hp : Program.OnlyAsks (fun request : Request => request.isUncaught = false) p)
    (hf : ∀ prepared, ReturnsSubmission (f prepared)) :
    ReturnsSubmission (Program.bind (Program.attempt p) f) where
  fails := by
    refine Program.FailsExactly.bind (Program.failsExactly_attempt hp ?_)
      fun prepared => (hf prepared).fails
    intro request reply hcaught hrejected
    have huncaught : request.isUncaught = true := hrejected.isUncaught
    rw [hcaught] at huncaught
    exact absurd huncaught (by decide)
  success t hash ledger hrun := by
    obtain ⟨prepared, t₁, t₂, rfl, -, hlast⟩ := Program.run_bind_ok.mp hrun
    obtain ⟨transaction, forceMethod, hmem⟩ := (hf prepared).success t₂ hash ledger hlast
    exact ⟨transaction, forceMethod, List.mem_append_right t₁ hmem⟩

/-- Choosing the source stands inside the `try`. -/
theorem resolveResimSource_asks (config : KitConfig) (forceMethod : Option SubmissionMethod) :
    Program.OnlyAsks (fun request : Request => request.isUncaught = false)
      (config.resolveResimSource forceMethod) := by
  unfold KitConfig.resolveResimSource
  by_cases hsponsored : config.shouldUseFeeSponsoring forceMethod = true
  · rw [if_pos hsponsored]
    exact Program.exchanges_done
  · rw [if_neg hsponsored]
    exact Program.onlyAsks_ofExcept_bind fun _ _ => Program.onlyAsks_await rfl

theorem returnsSubmission_submitCall (config : KitConfig) (call : ContractCall)
    (options : SignAndSubmitOptions) (allowWalletMutation : Bool) :
    ReturnsSubmission (submitCall config call options allowWalletMutation) := by
  unfold submitCall
  cases nonEmptyText config.contractId with
  | none => exact returnsSubmission_failure _
  | some contractId =>
    apply returnsSubmission_attempt
    · exact prepareCall_asks (fun _ => isUncaught_eq_false) call allowWalletMutation
        (resolveResimSource_asks config options.forceMethod)
    · intro prepared
      cases prepared with
      | ok preparedTx => exact returnsSubmission_sendAndPoll _ _
      | error err => exact returnsSubmission_failure _

theorem returnsSubmission_signAndSend (run : MultiSignerRun)
    (authEntries : List SorobanAuthorizationEntry) :
    ReturnsSubmission (signAndSend run authEntries) := by
  apply returnsSubmission_attempt
  · exact signAndPrepare_asks (fun _ => isUncaught_eq_false) _
      (resolveResimSource_asks run.config run.options.forceMethod)
  · intro prepared
    cases prepared with
    | ok preparedTx => exact returnsSubmission_sendAndPoll _ _
    | error err => exact returnsSubmission_failure _

/-- What a check throws is thrown on. -/
def EarlyExit.IsThrown : EarlyExit → Prop
  | .thrown _ => True
  | .returned _ => False

/-- Reading a check throws exactly where the check did. -/
theorem readCheck_throws_iff (notFound : JsError) (reply : Except JsError Bool) :
    (∃ exit, readCheck notFound reply = .error exit ∧ exit.IsThrown) ↔ reply.isOk = false := by
  cases reply with
  | error error => exact iff_of_true ⟨_, rfl, trivial⟩ rfl
  | ok available =>
    have hok : ¬(Except.ok available : Except JsError Bool).isOk = false := by
      simp [Except.isOk, Except.toBool]
    refine iff_of_false ?_ hok
    rintro ⟨exit, hexit, hthrown⟩
    cases available with
    | true => exact absurd hexit (by simp [readCheck])
    | false =>
      obtain rfl := Except.error.inj hexit
      exact hthrown

/-- The checks of a selection throw exactly where one of them was rejected. -/
theorem throwsExactly_checkSelection (run : MultiSignerRun) :
    Program.ThrowsExactly EarlyExit.IsThrown UncaughtRejected (checkSelection run) := by
  have hlog : Program.FailsExactly UncaughtRejected (run.options.log .selection
      ("Signing with " ++ toString run.passkeySigners.length ++ " passkey(s), " ++
        toString run.walletSigners.length ++ " wallet(s), and " ++
        toString run.ed25519Signers.length ++ " ed25519 key(s)")) := by
    unfold MultiSignerOptions.log
    split_ifs
    · exact Program.failsExactly_await fun reply => isOk_iff_not_eq_false reply
    · exact Program.failsExactly_pure ()
  apply Program.ThrowsExactly.bind (hlog.throws fun _ => trivial)
  intro _
  apply Program.ThrowsExactly.bind
  · exact Program.throwsExactly_forEach _ _ fun _ walletSigner =>
      Program.throwsExactly_await fun reply => readCheck_throws_iff _ reply
  · intro _
    exact Program.throwsExactly_forEach _ _ fun _ ed25519Signer =>
      Program.throwsExactly_await fun reply => readCheck_throws_iff _ reply

theorem returnsSubmission_submitWithSelectedSigners (config : KitConfig) (hostFunc : HostFunction)
    (authEntries : List SorobanAuthorizationEntry) (selectedSigners : List SelectedSigner)
    (options : MultiSignerOptions) (allowWalletMutation : Bool) :
    ReturnsSubmission (submitWithSelectedSigners config hostFunc authEntries selectedSigners options
      allowWalletMutation) := by
  unfold submitWithSelectedSigners
  cases nonEmptyText config.contractId with
  | none => exact returnsSubmission_failure _
  | some contractId =>
    constructor
    · refine (throwsExactly_checkSelection _).attempt_bind ?_ ?_ ?_
      · exact fun _ => (returnsSubmission_signAndSend _ authEntries).fails
      · intro exit hreturned
        cases exit with
        | returned error => exact Program.failsExactly_pure _
        | thrown error => exact absurd trivial hreturned
      · intro exit hthrown t x hrun
        cases exit with
        | returned error => exact hthrown.elim
        | thrown error =>
          rw [(Program.run_throw.mp hrun).2]
          rfl
    · intro t hash ledger hrun
      obtain ⟨checked, t₁, t₂, rfl, -, hrest⟩ := Program.run_bind_ok.mp hrun
      cases checked with
      | ok _ =>
        obtain ⟨transaction, forceMethod, hmem⟩ :=
          (returnsSubmission_signAndSend _ authEntries).success t₂ hash ledger hrest
        exact ⟨transaction, forceMethod, List.mem_append_right t₁ hmem⟩
      | error exit =>
        cases exit with
        | returned error => exact absurd (Program.run_pure.mp hrest).2 (by simp)
        | thrown error => exact absurd (Program.run_throw.mp hrest).2 (by simp)

theorem returnsSubmission_submitOperation (config : KitConfig) (built : Option BuiltTransaction)
    (selectedSigners : List SelectedSigner) (options : MultiSignerOptions)
    (allowWalletMutation : Bool) : ReturnsSubmission
      (submitOperation config built selectedSigners options allowWalletMutation) := by
  unfold submitOperation
  cases invokedTransaction built with
  | error error => exact returnsSubmission_failure _
  | ok transaction =>
    dsimp only
    split_ifs
    · apply returnsSubmission_attempt
      · apply Program.OnlyAsks.bind
        · exact Program.Exchanges.mono (log_onlySigns _ _) fun _ => isUncaught_eq_false
        · exact fun _ => Program.exchanges_done
      · intro prepared
        cases prepared with
        | ok preparedTx => exact returnsSubmission_sendAndPoll _ _
        | error err => exact returnsSubmission_failure _
    · exact returnsSubmission_submitWithSelectedSigners _ _ _ _ _ _

/-! ## The methods over the network -/

/-- A program that rejects exactly where a call that sends or polls does, or a check of the
selection throws, and whose success a poll has confirmed. -/
structure ResolvesUnlessRejected (p : NetworkProgram TransactionResult) : Prop where
  fails : Program.FailsExactly (fun e => SendRejected e ∨ CheckThrew e) p
  confirmed : ∀ u result, Program.Run p u (.ok result) → Confirmed u result

theorem ReturnsSubmission.through {p : KitProgram TransactionResult} (hp : ReturnsSubmission p)
    (config : KitConfig) : ResolvesUnlessRejected (Program.through config.network p) where
  fails := hp.fails.through (network_rejects_iff config)
  confirmed u result hrun hash ledger hsuccess := by
    obtain ⟨t, hprogram, hcarries⟩ := Handler.run_through.mp hrun
    rw [hsuccess] at hprogram
    obtain ⟨transaction, forceMethod, hmem⟩ := hp.success t hash ledger hprogram
    obtain ⟨v, hv, hsubset⟩ := hcarries.exists_run hmem
    obtain ⟨v', rfl, hsent⟩ := run_network_submission hv
    have hpolled := confirmed_sendAndPoll hsent hash ledger rfl
    exact hsubset (List.mem_cons_of_mem _ hpolled)

theorem resolvesUnlessRejected_failure (error : JsError) :
    ResolvesUnlessRejected (pure (.failure error)) where
  fails := Program.failsExactly_pure _
  confirmed u result hrun := by
    rw [Except.ok.inj (Program.run_pure.mp hrun).2]
    exact confirmed_failure u error none

/-- The calls that build a transfer. -/
def NetworkRequest.isBuild : NetworkRequest → Bool
  | .simulateRead _ | .buildWithOp _ _ _ => true
  | _ => false

theorem build_asks (args : TransferArgs) (contractId : String) :
    Program.OnlyAsks (fun request : NetworkRequest => request.isBuild = true)
      (args.build contractId) := by
  apply Program.OnlyAsks.bind
  · apply Program.OnlyAsks.bind
    · refine Program.onlyAsks_ofExcept_bind fun tx _ => ?_
      exact Program.OnlyAsks.bind (Program.onlyAsks_await rfl) fun _ => Program.exchanges_done
    · exact fun decimals => Program.exchanges_done
  · intro amountRaw
    refine Program.onlyAsks_ofExcept_bind fun func _ => ?_
    refine Program.OnlyAsks.bind (Program.onlyAsks_await rfl) fun call => ?_
    split <;> exact Program.exchanges_done

/-- What a transfer does with its call. -/
theorem resolves_submitBuilt (config : KitConfig)
    {submit : ContractCall → KitProgram TransactionResult}
    (hsubmit : ∀ call, ReturnsSubmission (submit call)) (built : Except JsError ContractCall) :
    ResolvesUnlessRejected (submitBuilt config submit built) := by
  cases built with
  | ok call => exact (hsubmit call).through config
  | error err => exact resolvesUnlessRejected_failure _

theorem resolves_transferWith (config : KitConfig) (args : TransferArgs)
    {submit : ContractCall → KitProgram TransactionResult}
    (hsubmit : ∀ call, ReturnsSubmission (submit call)) :
    ResolvesUnlessRejected (transferWith config args submit) := by
  unfold transferWith
  cases nonEmptyText config.contractId with
  | none => exact resolvesUnlessRejected_failure _
  | some contractId =>
    dsimp only
    cases args.check contractId with
    | error err => exact resolvesUnlessRejected_failure _
    | ok _ =>
      constructor
      · refine Program.FailsExactly.bind (Program.failsExactly_attempt
          (build_asks args contractId) ?_) fun built =>
            (resolves_submitBuilt config hsubmit built).fails
        intro request reply hbuild hrejected
        cases request with
        | simulateRead _ => exact hrejected.elim id id
        | buildWithOp _ _ _ => exact hrejected.elim id id
        | _ => exact absurd hbuild Bool.false_ne_true
      · intro u result hrun
        obtain ⟨built, u₁, u₂, rfl, -, hlast⟩ := Program.run_bind_ok.mp hrun
        have hconfirmed := (resolves_submitBuilt config hsubmit built).confirmed u₂ result hlast
        exact hconfirmed.mono (List.subset_append_right u₁ u₂)

theorem SubmissionCall.resolves (config : KitConfig) (call : SubmissionCall) :
    ResolvesUnlessRejected (call.program config) := by
  cases call with
  | signAndSubmit call options =>
    exact (returnsSubmission_submitCall config call options false).through config
  | signAndSubmitAdmin call options =>
    exact (returnsSubmission_submitCall config call options true).through config
  | transfer args options =>
    exact resolves_transferWith config args fun call =>
      returnsSubmission_submitCall config call _ false
  | operation built selectedSigners options =>
    exact (returnsSubmission_submitOperation config built selectedSigners options false).through
      config
  | adminOperation built selectedSigners options =>
    exact (returnsSubmission_submitOperation config built selectedSigners options true).through
      config
  | multiSignerTransfer args selectedSigners options =>
    exact resolves_transferWith config args fun call =>
      returnsSubmission_submitOperation config call.built selectedSigners options false

/-- A method resolved, to a success only where a poll has confirmed the transaction: so every
failure, in whichever step, was returned as a failed transaction. -/
def ReportsFailures (u : History Network) (x : Except JsError TransactionResult) : Prop :=
  ∃ result, x = .ok result ∧ Confirmed u result

/-- A submission method reports every failure if and only if none of the calls that send the
transaction or poll it was rejected, and no check of a selection threw. -/
theorem submission_reportsFailures_iff (config : KitConfig) (call : SubmissionCall)
    {u : History Network} {x : Except JsError TransactionResult}
    (hrun : Program.Run (call.program config) u x) :
    ReportsFailures u x ↔ ∀ e ∈ u, ¬SendRejected e ∧ ¬CheckThrew e := by
  have hresolves := call.resolves config
  simp only [← not_or]
  rw [← hresolves.fails u x hrun]
  constructor
  · rintro ⟨result, rfl, -⟩
    rfl
  · intro hok
    cases x with
    | error err => exact nomatch hok
    | ok result => exact ⟨result, rfl, hresolves.confirmed u result hrun⟩

/-- An operation without entries to sign, through a relayer. -/
def sampleSponsoredCall : SubmissionCall :=
  .operation (some
    { source := { accountId := sampleAccountId 4, sequence := 0 }
      operations := [.invokeHostFunction (.uploadContractWasm []) []] }) [] {}

/-- A network whose relayer accepts every call, and whose polls end with a reply. -/
def sampleNetwork (polled : Except JsError PollTransactionResponse) :
    (r : NetworkRequest) → NetworkReply r
  | .kit request => sampleReplies.reply request
  | .sendAndPoll _ _ => ()
  | .relayerSend _ _ =>
    .ok { success := true, hash := some (toHex (List.replicate 32 7)), error := none }
  | .sendTransaction _ => .ok (.accepted (toHex (List.replicate 32 7)))
  | .pollTransaction _ => polled
  | .simulateRead _ => .ok (.success none)
  | .buildWithOp _ _ _ => .error (JsError.plain "Account not found")
  | .randomKeypair => ⟨List.replicate 32 5, List.length_replicate⟩
  | .fetchFriendbot _ => .ok .ok
  | .getAccountEntry _ => .ok 0
  | .simulateFunding _ => .ok (.error "")
  | .signWithTempKeypair _ => []

/-- An operation of the sample wallet with one entry, which its delegated account signs. -/
def sampleSelectedCall : SubmissionCall :=
  .operation (some (sampleBuilt [sampleEntry])) [sampleWalletSigner] { onLog := true }

/-- Neither a call nor a check of the sample network is rejected. -/
theorem sampleNetwork_accepts {ledger : Option JsNumber} (request : NetworkRequest) :
    ¬SendRejected ⟨request, sampleNetwork (.ok (.success ledger)) request⟩ ∧
      ¬CheckThrew ⟨request, sampleNetwork (.ok (.success ledger)) request⟩ := by
  constructor
  · intro hrejected
    cases request with
    | relayerSend _ _ => exact Bool.noConfusion hrejected
    | sendTransaction _ => exact Bool.noConfusion hrejected
    | pollTransaction _ => exact Bool.noConfusion hrejected
    | _ => exact hrejected.elim
  · intro hthrew
    cases request with
    | kit request =>
      cases request with
      | onLog stage _ => cases stage <;> first | exact hthrew.elim | exact Bool.noConfusion hthrew
      | canSignFor stage _ =>
        cases stage <;> first | exact hthrew.elim | exact Bool.noConfusion hthrew
      | canSignEd25519 stage _ =>
        cases stage <;> first | exact hthrew.elim | exact Bool.noConfusion hthrew
      | _ => exact hthrew.elim
    | _ => exact hthrew.elim

theorem submission_reportsFailures_iff_sample :
    ReportsFailures
      (Program.transcript (sampleNetwork (.ok (.success (some (.ofNat 5)))))
        (sampleSelectedCall.program sampleConfig))
      (Program.answer (sampleNetwork (.ok (.success (some (.ofNat 5)))))
        (sampleSelectedCall.program sampleConfig)) := by
  refine (submission_reportsFailures_iff sampleConfig sampleSelectedCall
    (Program.run_transcript _ _)).mpr fun e he => ?_
  obtain ⟨request, reply⟩ := e
  have hreply : reply = sampleNetwork _ request := Program.mem_transcript he
  rw [hreply]
  exact sampleNetwork_accepts request

/-- Where the poll is rejected after the relayer has accepted the call, the operation rejects. -/
theorem submission_rejects_with_poll :
    ¬∀ (config : KitConfig) (call : SubmissionCall) (u : History Network)
      (x : Except JsError TransactionResult), Program.Run (call.program config) u x →
        ReportsFailures u x := by
  intro h
  have hrun := Program.run_transcript (sampleNetwork (.error (JsError.plain "fetch failed")))
    (sampleSponsoredCall.program sampleConfig)
  obtain ⟨result, hresult, -⟩ := h _ _ _ _ hrun
  have hrejected : (Program.answer (sampleNetwork (.error (JsError.plain "fetch failed")))
      (sampleSponsoredCall.program sampleConfig)).isOk = false := by decide
  rw [hresult] at hrejected
  exact nomatch hrejected

end SmartAccountKit
