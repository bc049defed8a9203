import SmartAccountKit.RelayerProxy.ApiKeyForms
import SmartAccountKit.RelayerProxy.Bodies
import SmartAccountKit.RelayerProxy.Handler
import SmartAccountKit.RelayerProxy.RateSharing
import SmartAccountKit.RelayerProxy.XdrMode

/-!
# What a request makes the relayer proxy do

No key is touched and nothing is submitted before the request has been let through,
parsed and validated; what is submitted is what was validated, at most one submission
succeeds, and the friendbot funds an account at most once.
-/

namespace SmartAccountKit.RelayerProxy
open Lib Program Worker

/-! ## Kinds of requests -/

/-- A request that limits or validates. -/
def ChecksRequest : ProxyRequest → Prop
  | .rateDecision _ _ _ => True
  | .getLedgerEntry _ => True
  | .simulateTransaction _ => True
  | _ => False

/-- A request about the stored keys, or to the clock. -/
def KeyRequest : ProxyRequest → Prop
  | .getKey _ => True
  | .putKey _ _ => True
  | .deleteKey _ => True
  | .generateKey => True
  | .now => True
  | _ => False

/-- The submission of a body. -/
def submission (apiKey : String) : SubmissionBody → ProxyRequest
  | .xdr xdr => .submitTransaction apiKey xdr
  | .func func auth => .submitSorobanTransaction apiKey func auth

/-- A request that touches a key: it reads, writes, deletes or generates one, or submits with it. -/
def UsesKey (r : ProxyRequest) : Prop :=
  (∃ kvKey, r = .getKey kvKey) ∨ (∃ kvKey text, r = .putKey kvKey text) ∨
    (∃ kvKey, r = .deleteKey kvKey) ∨ r = .generateKey ∨ ∃ apiKey body, r = submission apiKey body

/-- The relayer has accepted a submission. -/
def Accepts (e : Exchange ProxyServices) (result : RelayerResult) : Prop :=
  (∃ apiKey xdr, e = ⟨.submitTransaction apiKey xdr, .ok result⟩) ∨
    ∃ apiKey func auth, e = ⟨.submitSorobanTransaction apiKey func auth, .ok result⟩

/-- The friendbot has funded an account. -/
def Funds (e : Exchange ProxyServices) (account : String) : Prop :=
  e = ⟨.friendbot account, .ok true⟩

theorem not_accepts_of_checks {e : Exchange ProxyServices} (h : ChecksRequest e.request)
    (result : RelayerResult) : ¬Accepts e result := by
  rintro (⟨apiKey, xdr, rfl⟩ | ⟨apiKey, func, auth, rfl⟩) <;> exact h

theorem not_accepts_of_key {e : Exchange ProxyServices} (h : KeyRequest e.request)
    (result : RelayerResult) : ¬Accepts e result := by
  rintro (⟨apiKey, xdr, rfl⟩ | ⟨apiKey, func, auth, rfl⟩) <;> exact h

theorem not_usesKey_of_checks {r : ProxyRequest} (h : ChecksRequest r) : ¬UsesKey r := by
  rintro (⟨kvKey, rfl⟩ | ⟨kvKey, text, rfl⟩ | ⟨kvKey, rfl⟩ | rfl | ⟨apiKey, body, rfl⟩)
  · exact h
  · exact h
  · exact h
  · exact h
  · cases body <;> exact h

/-! ## The checks -/

theorem attempt_checks {α : Type} {p : Program ProxyServices ProxyError α}
    (h : OnlyAsks ChecksRequest p) :
    OnlyAsks ChecksRequest (attempt p : Program ProxyServices ProxyError (Except ProxyError α)) :=
  exchanges_attempt h

theorem ofExcept_checks {α : Type} (x : Except ProxyError α) :
    OnlyAsks ChecksRequest (ofExcept x : Program ProxyServices ProxyError α) := exchanges_done

theorem pure_checks {α : Type} (a : α) :
    OnlyAsks ChecksRequest (pure a : Program ProxyServices ProxyError α) := exchanges_done

theorem enforceRateLimit_checks (env : RateEnv) (ip : String) :
    OnlyAsks ChecksRequest (Worker.enforceRateLimit env ip) := by
  have hdecision : ∀ name limit windowMs,
      OnlyAsks ChecksRequest (Worker.rateDecision name limit windowMs) :=
    fun name limit windowMs => onlyAsks_await trivial
  refine onlyAsks_ofExcept_bind fun windowSeconds _ => onlyAsks_ofExcept_bind fun globalLimit _ => ?_
  refine OnlyAsks.bind (attempt_checks (hdecision _ _ _)) fun globalDecision => ?_
  refine onlyAsks_ofExcept_bind fun ipLimit _ => ?_
  exact OnlyAsks.bind (attempt_checks (hdecision _ _ _)) fun ipDecision => ofExcept_checks _

theorem readExecutable_checks (contractId message : String) :
    OnlyAsks ChecksRequest (readExecutable contractId message) := by
  unfold readExecutable
  split_ifs
  · exact onlyAsks_await trivial
  · exact exchanges_done

section validation

variable (sdk : ProxySdk) (env : ProxyEnv)

theorem walletContractIsAllowed_checks (contractId : String) :
    OnlyAsks ChecksRequest (walletContractIsAllowed sdk env contractId) := by
  unfold walletContractIsAllowed
  split_ifs
  · exact pure_checks false
  · exact pure_checks true
  · refine onlyAsks_ofExcept_bind fun hashes _ => ?_
    split_ifs
    · exact pure_checks false
    · refine onlyAsks_ofExcept_bind fun _ _ => ?_
      apply OnlyAsks.bind (readExecutable_checks _ _)
      intro executable
      split
      · exact pure_checks _
      · exact pure_checks false

theorem tokenContractIsAllowed_checks (contractId : String) :
    OnlyAsks ChecksRequest (tokenContractIsAllowed env contractId) := by
  unfold tokenContractIsAllowed
  split_ifs
  · exact pure_checks true
  · refine onlyAsks_ofExcept_bind fun _ _ => ?_
    apply OnlyAsks.bind (readExecutable_checks _ _)
    intro executable
    split
    · exact pure_checks true
    · exact pure_checks false

theorem simulateWithinFeeCeiling_checks (transaction : SimulatedTransaction) :
    OnlyAsks ChecksRequest (simulateWithinFeeCeiling env transaction) :=
  onlyAsks_ofExcept_bind fun _ _ =>
    OnlyAsks.bind (onlyAsks_await trivial) fun _ => ofExcept_checks _

theorem validateTransferEntry_checks (source : String) (invoke : InvokeContractArgs)
    (entry : SorobanAuthorizationEntry) :
    OnlyAsks ChecksRequest (validateTransferEntry sdk env source invoke entry) := by
  refine onlyAsks_ofExcept_bind fun wallet _ => OnlyAsks.bind ?_ fun allowed => ofExcept_checks _
  unfold transferWalletIsAllowed
  split_ifs
  · exact pure_checks false
  · exact walletContractIsAllowed_checks sdk env wallet

theorem validateHostFunction_checks (func : HostFunction)
    (auth : List SorobanAuthorizationEntry) :
    OnlyAsks ChecksRequest (validateHostFunction sdk env func auth) := by
  cases func with
  | createContractV2 deploy => exact ofExcept_checks _
  | createContract args => exact exchanges_done
  | uploadContractWasm wasm => exact exchanges_done
  | invokeContract invoke =>
    rw [validateHostFunction]
    split_ifs
    · refine onlyAsks_ofExcept_bind fun _ _ => onlyAsks_ofExcept_bind fun source _ => ?_
      have hentries : OnlyAsks ChecksRequest
          (forEach auth () fun _ entry => validateTransferEntry sdk env source invoke entry) :=
        exchanges_forEach_of_body fun entry _ _ => validateTransferEntry_checks sdk env _ _ entry
      refine OnlyAsks.bind hentries fun _ => onlyAsks_ofExcept_bind fun token _ => ?_
      exact OnlyAsks.bind (tokenContractIsAllowed_checks env token) fun _ => ofExcept_checks _
    · refine onlyAsks_ofExcept_bind fun contractId _ => ?_
      exact OnlyAsks.bind (walletContractIsAllowed_checks sdk env contractId) fun _ =>
        ofExcept_checks _

theorem validateSubmission_checks (body : SubmissionBody) :
    OnlyAsks ChecksRequest (validateSubmission sdk env body) := by
  cases body with
  | xdr xdr =>
    refine onlyAsks_ofExcept_bind fun transaction _ => onlyAsks_ofExcept_bind fun declared _ => ?_
    exact OnlyAsks.bind (simulateWithinFeeCeiling_checks env _) fun _ => ofExcept_checks _
  | func func auth =>
    refine onlyAsks_ofExcept_bind fun decoded _ => ?_
    refine OnlyAsks.bind (validateHostFunction_checks sdk env _ _) fun _ => ?_
    refine onlyAsks_ofExcept_bind fun passphrase _ => ?_
    exact OnlyAsks.bind (simulateWithinFeeCeiling_checks env _) fun _ => pure_checks ()

end validation

/-! ## The keys -/

theorem readStoredApiKey_asks (kvKey : String) :
    OnlyAsks KeyRequest (Worker.readStoredApiKey kvKey) := by
  apply OnlyAsks.bind (onlyAsks_await trivial)
  intro raw
  split
  · exact exchanges_done
  · apply OnlyAsks.bind (onlyAsks_await trivial)
    intro time
    split
    · exact exchanges_done
    · exact OnlyAsks.bind (onlyAsks_await trivial) fun _ => exchanges_done

theorem getOrCreateApiKey_asks (ip : String) : OnlyAsks KeyRequest (Worker.getOrCreateApiKey ip) := by
  apply OnlyAsks.bind (readStoredApiKey_asks _)
  intro cached
  split
  · split_ifs
    · exact OnlyAsks.bind (onlyAsks_await trivial) fun _ => exchanges_done
    · exact exchanges_done
  · apply OnlyAsks.bind (onlyAsks_await trivial)
    intro apiKey
    split
    · exact exchanges_done
    · refine OnlyAsks.bind (onlyAsks_await trivial) fun created => ?_
      exact OnlyAsks.bind (onlyAsks_await trivial) fun _ => exchanges_done

theorem retryDeadline_asks (env : ProxyEnv) : OnlyAsks KeyRequest (retryDeadline env) := by
  unfold retryDeadline
  split_ifs
  · exact OnlyAsks.bind (onlyAsks_await trivial) fun _ => exchanges_done
  · exact exchanges_done

/-! ## The loop of submissions -/

/-- What the submissions of a body with a key may exchange, when some accounts have been funded. -/
structure LoopTrace (sdk : ProxySdk) (env : ProxyEnv) (apiKey : String) (body : SubmissionBody)
    (funded : List String) (t : History ProxyServices)
    (x : Except ProxyError (Option RelayerResult)) : Prop where
  asks : ∀ e ∈ t, e.request = submission apiKey body ∨ e.request = .now ∨
    ∃ account, e.request = .friendbot account
  accepted : ∀ before e after result, t = before ++ e :: after → Accepts e result →
    after = [] ∧ x = .ok (some result)
  success : ∀ result, x = .ok (some result) → ∃ before e, t = before ++ [e] ∧ Accepts e result
  friendbot : ∀ before e after account, t = before ++ e :: after →
    e.request = .friendbot account → env.NETWORK = "testnet" ∧ account ≠ SHARED_DEPLOYER sdk ∧
      account ∉ funded ∧ ∀ e' ∈ before, ¬Funds e' account

namespace LoopTrace

variable {sdk : ProxySdk} {env : ProxyEnv} {apiKey : String} {body : SubmissionBody}
  {funded : List String} {t : History ProxyServices} {x : Except ProxyError (Option RelayerResult)}

theorem nil (hx : ∀ result, x ≠ .ok (some result)) :
    LoopTrace sdk env apiKey body funded [] x where
  asks e he := absurd he List.not_mem_nil
  accepted before e after result ht := absurd ht (by simp)
  success result h := absurd h (hx result)
  friendbot before e after account ht := absurd ht (by simp)

/-- The accepted submission ends the loop. -/
theorem last {e : Exchange ProxyServices} {result : RelayerResult}
    (hsends : e.request = submission apiKey body) (haccepts : Accepts e result) :
    LoopTrace sdk env apiKey body funded [e] (.ok (some result)) where
  asks e' he' := by
    rw [List.mem_singleton.mp he']
    exact Or.inl hsends
  accepted before e' after result' ht haccepts' := by
    obtain ⟨hbefore, he, hafter⟩ : before = [] ∧ e = e' ∧ after = [] := by
      cases before with
      | nil => simpa using ht
      | cons d before => exact absurd ht (by simp)
    rw [← he] at haccepts'
    have hsame : result = result' := by
      rcases haccepts with ⟨k, s, rfl⟩ | ⟨k, f, a, rfl⟩
      · rcases haccepts' with ⟨k', s', h⟩ | ⟨k', f', a', h⟩
        · cases h; rfl
        · cases h
      · rcases haccepts' with ⟨k', s', h⟩ | ⟨k', f', a', h⟩
        · cases h
        · cases h; rfl
    exact ⟨hafter, by rw [hsame]⟩
  success result' h := by
    rw [← Option.some.inj (Except.ok.inj h)]
    exact ⟨[], e, rfl, haccepts⟩
  friendbot before e' after account ht hfriendbot := by
    have hmem : e' ∈ [e] := by rw [ht]; simp
    rw [List.mem_singleton.mp hmem, hsends] at hfriendbot
    cases body <;> exact absurd hfriendbot (by simp [submission])

/-- An exchange that is neither accepted nor one with the friendbot comes first. -/
theorem cons (h : LoopTrace sdk env apiKey body funded t x) {e : Exchange ProxyServices}
    (hasks : e.request = submission apiKey body ∨ e.request = .now)
    (hrejected : ∀ result, ¬Accepts e result) :
    LoopTrace sdk env apiKey body funded (e :: t) x where
  asks e' he' := by
    rcases List.mem_cons.mp he' with rfl | he'
    · exact hasks.imp_right Or.inl
    · exact h.asks e' he'
  accepted before e' after result ht haccepts := by
    cases before with
    | nil =>
      have heq : e = e' := (List.cons.inj ht).1
      rw [← heq] at haccepts
      exact absurd haccepts (hrejected result)
    | cons d before => exact h.accepted before e' after result (List.cons.inj ht).2 haccepts
  success result hx := by
    obtain ⟨before, e', ht, haccepts⟩ := h.success result hx
    exact ⟨e :: before, e', by rw [ht]; rfl, haccepts⟩
  friendbot before e' after account ht hfriendbot := by
    cases before with
    | nil =>
      have heq : e = e' := (List.cons.inj ht).1
      rw [← heq] at hfriendbot
      rcases hasks with hasks | hasks
      · rw [hasks] at hfriendbot
        cases body <;> exact absurd hfriendbot (by simp [submission])
      · exact absurd (hasks.symm.trans hfriendbot) (by simp)
    | cons d before =>
      obtain ⟨hd, ht⟩ := List.cons.inj ht
      obtain ⟨htestnet, hshared, hfunded, hbefore⟩ :=
        h.friendbot before e' after account ht hfriendbot
      refine ⟨htestnet, hshared, hfunded, fun d' hd' hfunds => ?_⟩
      rcases List.mem_cons.mp hd' with rfl | hd'
      · -- the first exchange is not one with the friendbot
        rw [hd, hfunds] at hasks
        cases body <;> exact absurd hasks (by simp [submission])
      · exact hbefore d' hd' hfunds

/-- The friendbot is asked first, for an account that has not been funded. -/
theorem fund {account : String} {reply : Except String Bool} (htestnet : env.NETWORK = "testnet")
    (hshared : account ≠ SHARED_DEPLOYER sdk) (hfresh : account ∉ funded)
    (h : LoopTrace sdk env apiKey body
      (if reply.toOption.getD false then account :: funded else funded) t x) :
    LoopTrace sdk env apiKey body funded (⟨.friendbot account, reply⟩ :: t) x where
  asks e' he' := by
    rcases List.mem_cons.mp he' with rfl | he'
    · exact Or.inr (Or.inr ⟨account, rfl⟩)
    · exact h.asks e' he'
  accepted before e' after result ht haccepts := by
    cases before with
    | nil =>
      have heq : (⟨.friendbot account, reply⟩ : Exchange ProxyServices) = e' :=
        (List.cons.inj ht).1
      rw [← heq] at haccepts
      rcases haccepts with ⟨k, s, h⟩ | ⟨k, f, a, h⟩ <;> cases h
    | cons d before => exact h.accepted before e' after result (List.cons.inj ht).2 haccepts
  success result hx := by
    obtain ⟨before, e', ht, haccepts⟩ := h.success result hx
    exact ⟨⟨.friendbot account, reply⟩ :: before, e', by rw [ht]; rfl, haccepts⟩
  friendbot before e' after account' ht hfriendbot := by
    cases before with
    | nil =>
      have heq : (⟨.friendbot account, reply⟩ : Exchange ProxyServices) = e' :=
        (List.cons.inj ht).1
      rw [← heq] at hfriendbot
      have hsame : account = account' := ProxyRequest.friendbot.inj hfriendbot
      rw [← hsame]
      exact ⟨htestnet, hshared, hfresh, fun e' he' => absurd he' List.not_mem_nil⟩
    | cons d before =>
      obtain ⟨hd, ht⟩ := List.cons.inj ht
      obtain ⟨_, hshared', hfunded, hbefore⟩ :=
        h.friendbot before e' after account' ht hfriendbot
      have hnot : account' ∉ funded := by
        intro hmem
        apply hfunded
        split_ifs
        · exact List.mem_cons_of_mem account hmem
        · exact hmem
      refine ⟨htestnet, hshared', hnot, fun d' hd' hfunds => ?_⟩
      rcases List.mem_cons.mp hd' with rfl | hd'
      · -- an account that was funded here is not asked for again
        rw [← hd] at hfunds
        cases hfunds
        exact hfunded (by simp [Except.toOption])
      · exact hbefore d' hd' hfunds

end LoopTrace

section submitLoop

variable {sdk : ProxySdk} {env : ProxyEnv} {apiKey : String} {body : SubmissionBody}
  {t : History ProxyServices}

/-- A submission is one exchange, which gives the answer of the relayer. -/
theorem run_submit {x : Except ProxyError (Except SubmitError RelayerResult)}
    (h : Run (submit apiKey body) t x) :
    ∃ e answer, t = [e] ∧ x = .ok answer ∧ e.request = submission apiKey body ∧
      (∀ result, Accepts e result ↔ answer = .ok result) := by
  cases body with
  | xdr xdr =>
    obtain ⟨reply, rfl, rfl⟩ := run_await.mp h
    refine ⟨_, reply, rfl, rfl, rfl, fun result => ⟨?_, ?_⟩⟩
    · rintro (⟨k, s, h⟩ | ⟨k, f, a, h⟩)
      · cases h; rfl
      · cases h
    · intro hreply
      rw [hreply]
      exact Or.inl ⟨apiKey, xdr, rfl⟩
  | func func auth =>
    obtain ⟨reply, rfl, rfl⟩ := run_await.mp h
    refine ⟨_, reply, rfl, rfl, rfl, fun result => ⟨?_, ?_⟩⟩
    · rintro (⟨k, s, h⟩ | ⟨k, f, a, h⟩)
      · cases h
      · cases h; rfl
    · intro hreply
      rw [hreply]
      exact Or.inr ⟨apiKey, func, auth, rfl⟩

/-- Only the clock is read to decide whether an account is funded. -/
theorem run_accountToFund {deadline : ℕ} {error : SubmitError} {x : Except ProxyError String}
    (h : Run (accountToFund sdk env deadline error) t x) :
    (t = [] ∨ ∃ time, t = [⟨.now, time⟩]) ∧
      ∀ account, x = .ok account →
        env.NETWORK = "testnet" ∧ account ≠ SHARED_DEPLOYER sdk := by
  unfold accountToFund at h
  split at h
  · obtain ⟨rfl, rfl⟩ := run_throw.mp h
    exact ⟨Or.inl rfl, fun account hx => absurd hx (by simp)⟩
  rename_i missingAccount _
  split_ifs at h with htestnet
  · obtain ⟨rfl, rfl⟩ := run_throw.mp h
    exact ⟨Or.inl rfl, fun account hx => absurd hx (by simp)⟩
  rw [not_not] at htestnet
  rcases run_bind.mp h with ⟨e, hfail, -⟩ | ⟨time, t₁, t₂, rfl, hnow, hnext⟩
  · obtain ⟨reply, -, hreply⟩ := run_await.mp hfail
    exact absurd hreply (by simp)
  obtain ⟨reply, rfl, -⟩ := run_await.mp hnow
  split_ifs at hnext with hend
  · obtain ⟨rfl, rfl⟩ := run_throw.mp hnext
    exact ⟨Or.inr ⟨reply, rfl⟩, fun account hx => absurd hx (by simp)⟩
  · obtain ⟨rfl, rfl⟩ := run_pure.mp hnext
    refine ⟨Or.inr ⟨reply, rfl⟩, fun account hx => ?_⟩
    rw [← Except.ok.inj hx]
    exact ⟨htestnet, fun hshared => hend (Or.inr hshared)⟩

/-- By induction on the rounds: a round adds a submission that is refused, a reading of the clock
and perhaps a funding, or ends the loop. -/
theorem run_submitLoop {deadline rounds : ℕ} {funded : List String}
    {x : Except ProxyError (Option RelayerResult)}
    (h : Run (submitLoop sdk env apiKey body deadline rounds funded) t x) :
    LoopTrace sdk env apiKey body funded t x := by
  induction rounds generalizing funded t with
  | zero =>
    obtain ⟨rfl, rfl⟩ := run_pure.mp h
    exact LoopTrace.nil fun result => by simp
  | succ rounds ih =>
    rw [submitLoop] at h
    rcases run_bind.mp h with ⟨err, hfail, -⟩ | ⟨answer, t₁, t', rfl, hsubmit, h⟩
    · obtain ⟨_, _, -, hanswer, -⟩ := run_submit hfail
      exact absurd hanswer (by simp)
    obtain ⟨e, answer', rfl, hanswer, hsends, haccepts⟩ := run_submit hsubmit
    obtain rfl := Except.ok.inj hanswer
    cases answer with
    | ok result =>
      obtain ⟨rfl, rfl⟩ := run_pure.mp h
      exact LoopTrace.last hsends ((haccepts result).mpr rfl)
    | error error =>
      have hrejected : ∀ result, ¬Accepts e result := fun result hresult =>
        absurd ((haccepts result).mp hresult) (by simp)
      refine LoopTrace.cons ?_ (Or.inl hsends) hrejected
      -- the clock is no submission
      have hclock : ∀ {t₁ t₂ funded}, (t₁ = [] ∨ ∃ time, t₁ = [⟨.now, time⟩]) →
          LoopTrace sdk env apiKey body funded t₂ x →
          LoopTrace sdk env apiKey body funded (t₁ ++ t₂) x := by
        rintro t₁ t₂ funded (rfl | ⟨time, rfl⟩) htrace
        · exact htrace
        · refine htrace.cons (Or.inr rfl) ?_
          rintro result (⟨k, s, h⟩ | ⟨k, f, a, h⟩) <;> cases h
      rcases run_bind.mp h with ⟨err, hfail, rfl⟩ | ⟨account, t₁, t₂, rfl, haccount, h⟩
      · have hnone : LoopTrace sdk env apiKey body funded [] (.error err) :=
          LoopTrace.nil fun result => by simp
        have htrace := hclock (run_accountToFund hfail).1 hnone
        rwa [List.append_nil] at htrace
      obtain ⟨hread, hallowed⟩ := run_accountToFund haccount
      obtain ⟨htestnet, hshared⟩ := hallowed account rfl
      apply hclock hread
      rcases run_bind.mp h with ⟨err, hfail, rfl⟩ | ⟨funded', t₃, t₄, rfl, hfund, h⟩
      · unfold fundOnce at hfail
        split_ifs at hfail
        · exact absurd (run_pure.mp hfail).2 (by simp)
        rcases run_bind.mp hfail with ⟨err', hfail, -⟩ | ⟨ok, t₅, t₆, rfl, -, hfail⟩
        · obtain ⟨reply, -, hreply⟩ := run_await.mp hfail
          exact absurd hreply (by simp)
        · exact absurd (run_pure.mp hfail).2 (by simp)
      have hrest := ih h
      unfold fundOnce at hfund
      split_ifs at hfund with hmem
      · obtain ⟨rfl, hsame⟩ := run_pure.mp hfund
        rw [Except.ok.inj hsame] at hrest
        exact hrest
      · obtain ⟨ok, t₅, t₆, rfl, hask, hend⟩ := run_bind_ok.mp hfund
        obtain ⟨reply, rfl, hok⟩ := run_await.mp hask
        obtain ⟨rfl, hsame⟩ := run_pure.mp hend
        rw [Except.ok.inj hsame, Except.ok.inj hok] at hrest
        exact LoopTrace.fund htestnet hshared hmem hrest

end submitLoop

/-! ## The request -/

/-- What a request may make the proxy do, and when it is answered with a success. -/
structure SafeTrace (sdk : ProxySdk) (env : ProxyEnv) (request : PostRequest)
    (t : History ProxyServices) (response : Option ProxyResponse) : Prop where
  /-- A key is touched only after the limits and the checks of the same body have passed. -/
  validated : ∀ before e after, t = before ++ e :: after → UsesKey e.request →
    ∃ body t₁ t₂ t₃, before = t₁ ++ t₂ ++ t₃ ∧
      Run (Worker.enforceRateLimit env.rates (getClientIP request.clientIP)) t₁ (.ok none) ∧
      parseSubmissionBody request.text = .ok body ∧
      Run (validateSubmission sdk env body) t₂ (.ok ()) ∧
      ∀ apiKey sent, e.request = submission apiKey sent → sent = body
  accepted : ∀ before e after result, t = before ++ e :: after → Accepts e result →
    after = [] ∧ response = some (.submitted result)
  success : ∀ r, response = some r → r.error = none →
    ∃ before e result, t = before ++ [e] ∧ Accepts e result ∧ r = .submitted result
  friendbot : ∀ before e after account, t = before ++ e :: after →
    e.request = .friendbot account → env.NETWORK = "testnet" ∧ account ≠ SHARED_DEPLOYER sdk ∧
      ∀ e' ∈ before, ¬Funds e' account

theorem submission_inj {apiKey apiKey' : String} {body body' : SubmissionBody}
    (h : submission apiKey body = submission apiKey' body') : body = body' := by
  cases body with
  | xdr xdr =>
    cases body' with
    | xdr xdr' => rw [(ProxyRequest.submitTransaction.inj h).2]
    | func func auth => exact absurd h (by simp [submission])
  | func func auth =>
    cases body' with
    | xdr xdr' => exact absurd h (by simp [submission])
    | func func' auth' =>
      obtain ⟨-, hfunc, hauth⟩ := ProxyRequest.submitSorobanTransaction.inj h
      rw [hfunc, hauth]

/-- Every response that reports an error has one. -/
theorem response_error_ne_none (error : ProxyError) : error.response.error ≠ none := by
  cases error with
  | request error => simp [ProxyError.response]
  | other message => simp [ProxyError.response]
  | submit error => cases error <;> simp [ProxyError.response]

section handle

variable {sdk : ProxySdk} {env : ProxyEnv} {request : PostRequest} {t : History ProxyServices}

/-- Only the checks have been made, and the request is not answered with a success. -/
theorem SafeTrace.of_checks {response : Option ProxyResponse}
    (ht : ∀ e ∈ t, ChecksRequest e.request)
    (hresponse : ∀ r, response = some r → r.error ≠ none) :
    SafeTrace sdk env request t response where
  validated before e after hsplit huses :=
    absurd huses (not_usesKey_of_checks (ht e (by rw [hsplit]; simp)))
  accepted before e after result hsplit haccepts :=
    absurd haccepts (not_accepts_of_checks (ht e (by rw [hsplit]; simp)) result)
  success r hr herror := absurd herror (hresponse r hr)
  friendbot before e after account hsplit hfriendbot := by
    have hchecks := ht e (by rw [hsplit]; simp)
    rw [hfriendbot] at hchecks
    exact hchecks.elim

/-- The submissions of a validated body come after requests about its key. -/
theorem run_sponsor {ip : String} {body : SubmissionBody} {rounds : ℕ}
    {x : Except ProxyError (Option ProxyResponse)}
    (h : Run (sponsor sdk env ip body rounds) t x) :
    ∃ apiKey t₁ t₂ y, t = t₁ ++ t₂ ∧ (∀ e ∈ t₁, KeyRequest e.request) ∧
      LoopTrace sdk env apiKey body [] t₂ y ∧ x = y.map (Option.map ProxyResponse.submitted) := by
  -- where the key or its client is missing, nothing is submitted
  have hfails : ∀ {t : History ProxyServices} {error : ProxyError},
      (∀ e ∈ t, KeyRequest e.request) → x = .error error →
      ∃ apiKey t₁ t₂ y, t = t₁ ++ t₂ ∧ (∀ e ∈ t₁, KeyRequest e.request) ∧
        LoopTrace sdk env apiKey body [] t₂ y ∧
        x = y.map (Option.map ProxyResponse.submitted) := by
    intro t error ht hx
    exact ⟨"", t, [], .error error, (List.append_nil t).symm, ht,
      LoopTrace.nil fun result => by simp, hx⟩
  unfold sponsor at h
  rcases run_bind.mp h with ⟨error, hfail, hx⟩ | ⟨storedKey, t₁, t', rfl, hkey, hnext⟩
  · exact hfails (fun e he => ((getOrCreateApiKey_asks ip) t _ hfail e he).1) hx
  have hkeys : ∀ e ∈ t₁, KeyRequest e.request :=
    fun e he => ((getOrCreateApiKey_asks ip) t₁ _ hkey e he).1
  cases storedKey with
  | none =>
    obtain ⟨rfl, hx⟩ := run_throw.mp hnext
    rw [List.append_nil]
    exact hfails hkeys hx
  | some storedKey =>
    rcases run_bind.mp hnext with ⟨error, hfail, hx⟩ | ⟨_, t₂, t₃, rfl, hclient, hsubmit⟩
    · obtain ⟨rfl, -⟩ := run_ofExcept.mp hfail
      rw [List.append_nil]
      exact hfails hkeys hx
    obtain ⟨rfl, -⟩ := run_ofExcept.mp hclient
    have hdeadlines : ∀ u y, Run (retryDeadline env) u y → ∀ e ∈ t₁ ++ u, KeyRequest e.request := by
      intro u y hrun e he
      rcases List.mem_append.mp he with he | he
      · exact hkeys e he
      · exact (retryDeadline_asks env u y hrun e he).1
    rcases run_bind.mp hsubmit with ⟨error, hfail, hx⟩ | ⟨deadline, t₂, t₄, rfl, hdeadline, hloop⟩
    · exact hfails (hdeadlines _ _ hfail) hx
    refine ⟨storedKey.apiKey, t₁ ++ t₂, t₄, ?_⟩
    rcases run_bind.mp hloop with ⟨error, hfail, hx⟩ | ⟨result, t₅, t₆, rfl, hrounds, hend⟩
    · exact ⟨.error error, by simp, hdeadlines _ _ hdeadline, run_submitLoop hfail, hx⟩
    · obtain ⟨rfl, hx⟩ := run_pure.mp hend
      rw [List.append_nil]
      exact ⟨.ok result, by simp, hdeadlines _ _ hdeadline, run_submitLoop hrounds, hx⟩

/-- A submission and a use of a key are no checks, so they come after all of them. -/
theorem split_after {t₁ t₂ before after : History ProxyServices} {e : Exchange ProxyServices}
    (ht₁ : ∀ e ∈ t₁, ChecksRequest e.request) (he : ¬ChecksRequest e.request)
    (h : t₁ ++ t₂ = before ++ e :: after) :
    ∃ before', before = t₁ ++ before' ∧ t₂ = before' ++ e :: after := by
  rcases List.append_eq_append_iff.mp h with ⟨rest, hbefore, hrest⟩ | ⟨rest, ht, hrest⟩
  · exact ⟨rest, hbefore, hrest⟩
  · cases rest with
    | nil =>
      rw [List.append_nil] at ht
      exact ⟨[], by rw [List.append_nil, ht], hrest.symm⟩
    | cons d rest =>
      have hd : e = d := (List.cons.inj hrest).1
      have hmem : d ∈ t₁ := by rw [ht]; simp
      rw [hd] at he
      exact absurd (ht₁ d hmem) he

/-- What comes after the checks of a request. -/
theorem SafeTrace.of_sponsor {body : SubmissionBody} {rounds : ℕ}
    {t₁ t₂ t₃ : History ProxyServices} {x : Except ProxyError (Option ProxyResponse)}
    (hlimit : Run (Worker.enforceRateLimit env.rates (getClientIP request.clientIP)) t₁ (.ok none))
    (hbody : parseSubmissionBody request.text = .ok body)
    (hvalid : Run (validateSubmission sdk env body) t₂ (.ok ()))
    (h : Run (sponsor sdk env (getClientIP request.clientIP) body rounds) t₃ x) :
    SafeTrace sdk env request (t₁ ++ t₂ ++ t₃) (respond x) := by
  have hchecks : ∀ e ∈ t₁ ++ t₂, ChecksRequest e.request := by
    intro e he
    rcases List.mem_append.mp he with he | he
    · exact (enforceRateLimit_checks _ _ t₁ _ hlimit e he).1
    · exact (validateSubmission_checks sdk env body t₂ _ hvalid e he).1
  obtain ⟨apiKey, t₄, t₅, y, rfl, hkeys, htrace, hx⟩ := run_sponsor h
  -- an exchange of the loop, and what comes before it
  have hloop : ∀ {before e after}, t₁ ++ t₂ ++ (t₄ ++ t₅) = before ++ e :: after →
      ¬ChecksRequest e.request → ¬KeyRequest e.request →
      ∃ before', t₅ = before' ++ e :: after ∧ before = t₁ ++ t₂ ++ (t₄ ++ before') := by
    intro before e after hsplit hcheck hkey
    obtain ⟨rest, hbefore, hrest⟩ := split_after hchecks hcheck hsplit
    rcases List.append_eq_append_iff.mp hrest with ⟨before', hrest', hfound⟩ | ⟨rest', ht₄, hfound⟩
    · exact ⟨before', hfound, by rw [hbefore, hrest']⟩
    · cases rest' with
      | nil =>
        rw [List.append_nil] at ht₄
        exact ⟨[], hfound.symm, by rw [hbefore, List.append_nil, ht₄]⟩
      | cons d rest' =>
        have hd : e = d := (List.cons.inj hfound).1
        have hmem : d ∈ t₄ := by rw [ht₄]; simp
        rw [hd] at hkey
        exact absurd (hkeys d hmem) hkey
  have haccepts : ∀ {e : Exchange ProxyServices} {result}, Accepts e result →
      ¬ChecksRequest e.request ∧ ¬KeyRequest e.request := by
    intro e result h
    exact ⟨fun hcheck => not_accepts_of_checks hcheck result h,
      fun hkey => not_accepts_of_key hkey result h⟩
  refine ⟨?_, ?_, ?_, ?_⟩
  · intro before e after hsplit huses
    have hcheck : ¬ChecksRequest e.request := fun hc => not_usesKey_of_checks hc huses
    obtain ⟨before', hbefore, hfound⟩ := split_after hchecks hcheck hsplit
    refine ⟨body, t₁, t₂, before', hbefore, hlimit, hbody, hvalid, fun apiKey' sent hsent => ?_⟩
    -- a submission is none of the requests about keys, so it is one of the loop
    have hmem : e ∈ t₄ ++ t₅ := by rw [hfound]; simp
    rcases List.mem_append.mp hmem with hmem | hmem
    · have hkey := hkeys e hmem
      rw [hsent] at hkey
      cases sent <;> exact hkey.elim
    · rcases htrace.asks e hmem with hasks | hasks | ⟨account, hasks⟩
      · exact submission_inj (hsent.symm.trans hasks)
      · cases sent <;> exact absurd (hsent.symm.trans hasks) (by simp [submission])
      · cases sent <;> exact absurd (hsent.symm.trans hasks) (by simp [submission])
  · intro before e after result hsplit haccepted
    obtain ⟨hcheck, hkey⟩ := haccepts haccepted
    obtain ⟨before', hfound, -⟩ := hloop hsplit hcheck hkey
    obtain ⟨hafter, hy⟩ := htrace.accepted before' e after result hfound haccepted
    rw [hx, hy]
    exact ⟨hafter, rfl⟩
  · intro r hr herror
    cases y with
    | error error =>
      rw [hx] at hr
      have hsome : error.response = r := Option.some.inj hr
      rw [← hsome] at herror
      exact absurd herror (response_error_ne_none error)
    | ok result? =>
      cases result? with
      | none =>
        rw [hx] at hr
        exact absurd hr (by simp [respond, Except.map])
      | some result =>
        obtain ⟨before', e, ht₅, haccepted⟩ := htrace.success result rfl
        rw [hx] at hr
        refine ⟨t₁ ++ t₂ ++ (t₄ ++ before'), e, result, by rw [ht₅]; simp, haccepted, ?_⟩
        exact (Option.some.inj hr).symm
  · intro before e after account hsplit hfriendbot
    have hcheck : ¬ChecksRequest e.request := by rw [hfriendbot]; exact id
    have hkey : ¬KeyRequest e.request := by rw [hfriendbot]; exact id
    obtain ⟨before', hfound, hbefore⟩ := hloop hsplit hcheck hkey
    obtain ⟨htestnet, hshared, -, hfunds⟩ := htrace.friendbot before' e after account hfound hfriendbot
    refine ⟨htestnet, hshared, fun e' he' hfund => ?_⟩
    rw [hbefore] at he'
    rcases List.mem_append.mp he' with hmem | hmem
    · have hcheck' := hchecks e' hmem
      rw [hfund] at hcheck'
      exact hcheck'
    rcases List.mem_append.mp hmem with hmem | hmem
    · have hkey' := hkeys e' hmem
      rw [hfund] at hkey'
      exact hkey'
    · exact hfunds e' hmem hfund

theorem run_handle {rounds : ℕ} {x : Except ProxyError (Option ProxyResponse)}
    (h : Run (handle sdk env request rounds) t x) :
    SafeTrace sdk env request t (respond x) := by
  have herrors : ∀ error r, respond (.error error) = some r → r.error ≠ none := by
    intro error r hr
    rw [← Option.some.inj hr]
    exact response_error_ne_none error
  unfold handle at h
  rcases run_bind.mp h with ⟨error, hfail, rfl⟩ | ⟨_, t₀, t', rfl, hip, hnext⟩
  · obtain ⟨rfl, -⟩ := run_ofExcept.mp hfail
    exact SafeTrace.of_checks (fun e he => absurd he List.not_mem_nil) (herrors error)
  obtain ⟨rfl, -⟩ := run_ofExcept.mp hip
  rcases run_bind.mp hnext with ⟨error, hfail, rfl⟩ | ⟨retryAfter, t₁, t₂, rfl, hlimit, hbody⟩
  · exact SafeTrace.of_checks (fun e he => (enforceRateLimit_checks _ _ _ _ hfail e he).1)
      (herrors error)
  have hlimits : ∀ e ∈ t₁, ChecksRequest e.request :=
    fun e he => (enforceRateLimit_checks _ _ t₁ _ hlimit e he).1
  cases retryAfter with
  | some seconds =>
    obtain ⟨rfl, rfl⟩ := run_pure.mp hbody
    refine SafeTrace.of_checks (by simpa using hlimits) fun r hr => ?_
    rw [← Option.some.inj hr]
    simp
  | none =>
    rcases run_bind.mp hbody with ⟨error, hfail, rfl⟩ | ⟨body, t₃, t₄, rfl, hparse, hrest⟩
    · obtain ⟨rfl, -⟩ := run_ofExcept.mp hfail
      exact SafeTrace.of_checks (by simpa using hlimits) (herrors error)
    obtain ⟨rfl, hparsed⟩ := run_ofExcept.mp hparse
    rcases run_bind.mp hrest with ⟨error, hfail, rfl⟩ | ⟨_, t₅, t₆, rfl, hvalid, hsponsor⟩
    · refine SafeTrace.of_checks (fun e he => ?_) (herrors error)
      have hmem : e ∈ t₁ ∨ e ∈ t₄ := by simpa using he
      apply hmem.elim
      · exact hlimits e
      · exact fun he => (validateSubmission_checks sdk env body t₄ _ hfail e he).1
    · have hsafe := SafeTrace.of_sponsor hlimit hparsed.symm hvalid hsponsor
      simpa using hsafe

end handle

/-- In every trace of a request: a key is touched and a submission made only after the limits and
the checks of the same body have passed, a success answers the one submission that was accepted,
after which nothing follows, and the friendbot is asked on testnet only, not for the shared
deployer, and not for an account it has funded. -/
theorem post_safe (sdk : ProxySdk) (env : ProxyEnv) (request : PostRequest) (rounds : ℕ)
    (t : History ProxyServices) (response : Option ProxyResponse)
    (h : Run (post sdk env request rounds) t (.ok response)) :
    SafeTrace sdk env request t response := by
  unfold post at h
  split_ifs at h
  · obtain ⟨rfl, hresponse⟩ := run_pure.mp h
    obtain rfl := Except.ok.inj hresponse
    refine SafeTrace.of_checks (fun e he => absurd he List.not_mem_nil) fun r hr => ?_
    rw [← Option.some.inj hr]
    simp
  · obtain ⟨outcome, t₁, t₂, rfl, hattempt, hend⟩ := run_bind_ok.mp h
    obtain ⟨rfl, hresponse⟩ := run_pure.mp hend
    obtain rfl := Except.ok.inj hresponse
    obtain ⟨x, hrun, hx⟩ := run_attempt.mp hattempt
    obtain rfl := Except.ok.inj hx
    rw [List.append_nil]
    exact run_handle hrun

/-! ## A request that is sponsored -/

/-- A request for the sample call. -/
def sampleRequest : PostRequest where
  origin := none
  clientIP := some "192.0.2.1"
  text := funcBodyText sampleCallText [sampleCallEntryText]

def sampleTime : Timestamp := ⟨1000, by decide⟩

/-- The stored key of the client. -/
def sampleKey : StoredApiKey := ⟨"key-0123456789", sampleTime.toNumber⟩

def sampleResult : RelayerResult := ⟨some "tx", some "hash", some "confirmed"⟩

/-- Both limiters let the request go on. -/
def sampleLimits : History ProxyServices :=
  [⟨.rateDecision "global" 100 60000, .ok (some ⟨true, 0⟩)⟩,
    ⟨.rateDecision "ip:192.0.2.1" 10 60000, .ok (some ⟨true, 0⟩)⟩]

/-- The key is read, and the relayer accepts the first submission. -/
def sampleSubmissions : History ProxyServices :=
  [⟨.getKey "api-key:192.0.2.1", .ok (some sampleKey.text)⟩, ⟨.now, sampleTime⟩, ⟨.now, sampleTime⟩,
    ⟨.submitSorobanTransaction "key-0123456789" sampleCallText [sampleCallEntryText],
      .ok sampleResult⟩]

theorem sampleLimits_run :
    Run (Worker.enforceRateLimit sampleCallEnv.rates "192.0.2.1") sampleLimits (.ok none) := by
  have hwindow : limitOf none DEFAULT_RATE_LIMIT_WINDOW_SECONDS "RATE_LIMIT_WINDOW_SECONDS" =
      .ok 60 := by
    rw [limitOf, positiveInteger_eq_ok rfl (by decide) (by decide)]
    rfl
  have hall : limitOf none DEFAULT_RATE_LIMIT_GLOBAL "RATE_LIMIT_GLOBAL" = .ok 100 := by
    rw [limitOf, positiveInteger_eq_ok rfl (by decide) (by decide)]
    rfl
  have heach : limitOf none DEFAULT_RATE_LIMIT_PER_IP "RATE_LIMIT_PER_IP" = .ok 10 := by
    rw [limitOf, positiveInteger_eq_ok rfl (by decide) (by decide)]
    rfl
  refine run_ofExcept_bind_ok.mpr ⟨60, hwindow, run_ofExcept_bind_ok.mpr ⟨100, hall, ?_⟩⟩
  refine run_bind_ok.mpr ⟨.ok ⟨true, 0⟩, [_], [_], rfl,
    run_attempt.mpr ⟨.ok ⟨true, 0⟩, run_await.mpr ⟨_, rfl, rfl⟩, rfl⟩, ?_⟩
  refine run_ofExcept_bind_ok.mpr ⟨10, heach, run_bind_ok.mpr ⟨.ok ⟨true, 0⟩, [_], [], rfl,
    run_attempt.mpr ⟨.ok ⟨true, 0⟩, run_await.mpr ⟨_, rfl, rfl⟩, rfl⟩, ?_⟩⟩
  exact run_ofExcept.mpr ⟨rfl, rfl⟩

theorem sampleSponsor_run :
    Run (sponsor sampleCallSdk sampleCallEnv "192.0.2.1"
      (.func sampleCallText [sampleCallEntryText]) 1) sampleSubmissions
      (.ok (some (.submitted sampleResult))) := by
  have hvalid : isValidApiKey "key-0123456789" = true := by decide
  have hread : parseApiKey (trim sampleKey.text) sampleTime = some ⟨sampleKey, false⟩ :=
    parseApiKey_text hvalid sampleTime sampleTime
  have hne : sampleKey.text ≠ "" :=
    @ne_empty_of_parseJson sampleKey.text sampleKey.text [] [] _ (by simp)
      (parseJson_stringifyJson sampleKey.object.wellFormed_toJson)
  have hfilter : (some sampleKey.text).filter (· ≠ "") = some sampleKey.text := by
    simp [hne]
  have hstored : Run (Worker.readStoredApiKey "api-key:192.0.2.1")
      [⟨.getKey "api-key:192.0.2.1", .ok (some sampleKey.text)⟩, ⟨.now, sampleTime⟩]
      (.ok (some ⟨sampleKey, false⟩)) := by
    refine run_bind_ok.mpr ⟨some sampleKey.text, [_], [_], rfl, run_await.mpr ⟨_, rfl, rfl⟩, ?_⟩
    rw [hfilter]
    refine run_bind_ok.mpr ⟨sampleTime, [_], [], rfl, run_await.mpr ⟨_, rfl, rfl⟩, ?_⟩
    rw [hread]
    exact run_pure.mpr ⟨rfl, rfl⟩
  have hkey : Run (Worker.getOrCreateApiKey "192.0.2.1")
      [⟨.getKey "api-key:192.0.2.1", .ok (some sampleKey.text)⟩, ⟨.now, sampleTime⟩]
      (.ok (some sampleKey)) :=
    run_bind_ok.mpr ⟨_, _, [], rfl, hstored, run_pure.mpr ⟨rfl, rfl⟩⟩
  refine run_bind_ok.mpr ⟨some sampleKey, _, [_, _], rfl, hkey, ?_⟩
  refine run_ofExcept_bind_ok.mpr ⟨(), rfl, run_bind_ok.mpr ⟨301000, [_], [_], rfl, ?_, ?_⟩⟩
  · exact run_bind_ok.mpr ⟨sampleTime, [_], [], rfl, run_await.mpr ⟨_, rfl, rfl⟩,
      run_pure.mpr ⟨rfl, rfl⟩⟩
  · refine run_bind_ok.mpr ⟨some sampleResult, [_], [], rfl, ?_, run_pure.mpr ⟨rfl, rfl⟩⟩
    exact run_bind_ok.mpr ⟨.ok sampleResult, [_], [], rfl, run_await.mpr ⟨_, rfl, rfl⟩,
      run_pure.mpr ⟨rfl, rfl⟩⟩

/-- The sample request is let through, validated and submitted. -/
theorem samplePost_run :
    Run (post sampleCallSdk sampleCallEnv sampleRequest 1)
      (sampleLimits ++ (sampleSimulation ++ sampleSubmissions))
      (.ok (some (.submitted sampleResult))) := by
  have hip : getClientIP sampleRequest.clientIP = "192.0.2.1" := by decide
  have hbody : parseSubmissionBody sampleRequest.text =
      .ok (.func sampleCallText [sampleCallEntryText]) := by
    have hpositive : ∀ bs : Bytes, bs ≠ [] → toBase64 bs ≠ "" :=
      fun bs hbs h => hbs (toBase64_eq_empty.mp h)
    apply parseSubmissionBody_funcBodyText
    · exact hpositive _ (by simp [xdrU32, beBytes, beDigits])
    · exact List.cons_ne_nil _ _
    · rw [List.forall_mem_singleton]
      exact hpositive _ (by simp [xdrU32, beBytes, beDigits])
    · decide
  have hhandle : Run (handle sampleCallSdk sampleCallEnv sampleRequest 1)
      (sampleLimits ++ (sampleSimulation ++ sampleSubmissions))
      (.ok (some (.submitted sampleResult))) := by
    unfold handle
    rw [hip]
    refine run_ofExcept_bind_ok.mpr ⟨(), by simp [throwIf, UNKNOWN_IP],
      run_bind_ok.mpr ⟨none, _, _, rfl, sampleLimits_run, ?_⟩⟩
    exact run_ofExcept_bind_ok.mpr ⟨_, hbody,
      run_bind_ok.mpr ⟨(), _, _, rfl, sampleCall_run, sampleSponsor_run⟩⟩
  unfold post
  rw [if_neg (by decide)]
  exact run_bind_ok.mpr ⟨.ok (some (.submitted sampleResult)), _, [], (List.append_nil _).symm,
    run_attempt.mpr ⟨_, hhandle, rfl⟩, run_pure.mpr ⟨rfl, rfl⟩⟩

/-- The trace of the sample request is safe. -/
theorem post_safe_sample :
    SafeTrace sampleCallSdk sampleCallEnv sampleRequest
      (sampleLimits ++ (sampleSimulation ++ sampleSubmissions)) (some (.submitted sampleResult)) :=
  post_safe sampleCallSdk sampleCallEnv sampleRequest 1 _ _ samplePost_run

end SmartAccountKit.RelayerProxy
