import SmartAccountKit.Deployment

/-!
# The transaction hash that a deployment knows

Over every route, a submission ends knowing the hash of a transaction exactly where
the relayer or the network has accepted one with it.
-/

namespace SmartAccountKit
open Lib

/-! ## Accepted transactions -/

/-- A request that sends a transaction. -/
def WalletRequest.sendsTransaction : WalletRequest → Bool
  | .sendTransaction _ _ | .relayerSend _ _ | .relayerSendXdr _ => true
  | _ => false

/-- The hash that an exchange gives for a transaction that it sends: where it is accepted with one,
or its confirmation is still pending and its envelope has one. -/
def acceptedHash : Exchange WalletEnvironment → Option String
  | ⟨.relayerSend _ _, .ok response⟩ =>
    if response.success then nonEmptyText response.hash else none
  | ⟨.relayerSendXdr _, .ok response⟩ =>
    if response.success then nonEmptyText response.hash else none
  | ⟨.sendTransaction _ _, .ok sent⟩ => nonEmptyText sent.hash
  | ⟨.sendTransaction _ signed, .error .stillPending⟩ => nonEmptyText (signed.map (·.hash))
  | _ => none

/-- The hashes of the transactions that were sent. -/
def acceptedHashes (t : History WalletEnvironment) : List String := t.filterMap acceptedHash

@[simp] theorem acceptedHashes_append (t t' : History WalletEnvironment) :
    acceptedHashes (t ++ t') = acceptedHashes t ++ acceptedHashes t' := List.filterMap_append

/-! ## The hash that a submission knows -/

/-- The hash of a transaction that was sent, as an outcome knows it. -/
def outcomeHash {α : Type} : Except SubmissionStop (String × α) → Option String
  | .ok (hash, _) => some hash
  | .error stop => stop.knownHash

/-- A program that has sent a transaction sends nothing more and keeps its hash. -/
def HoldsHash {α : Type} (hash : String) (p : Program WalletEnvironment SubmissionStop (String × α)) :
    Prop :=
  ∀ t x, Program.Run p t x → acceptedHashes t = [] ∧ outcomeHash x = some hash

/-- A program ends knowing the hashes that were accepted. -/
def KnowsHash {α : Type} (p : Program WalletEnvironment SubmissionStop (String × α)) : Prop :=
  ∀ t x, Program.Run p t x → acceptedHashes t = (outcomeHash x).toList

section hashes

variable {α β : Type} {hash : String} {t : History WalletEnvironment}

theorem acceptedHashes_eq_nil (h : ∀ e ∈ t, WalletRequest.sendsTransaction e.request = false) :
    acceptedHashes t = [] := by
  rw [acceptedHashes, List.filterMap_eq_nil_iff]
  intro e he
  have hsends := h e he
  obtain ⟨request, reply⟩ := e
  cases request with
  | sendTransaction tx signed => exact absurd hsends (by simp [WalletRequest.sendsTransaction])
  | relayerSend func auth => exact absurd hsends (by simp [WalletRequest.sendsTransaction])
  | relayerSendXdr signed => exact absurd hsends (by simp [WalletRequest.sendsTransaction])
  | _ => rfl

/-- The errors of a program do not name another hash. -/
def KeepsHash (hash : String) (p : Program WalletEnvironment DeploymentError α) : Prop :=
  ∀ t e, Program.Run p t (.error e) → SubmissionStop.knownHash (e, some hash) = some hash

theorem HoldsHash.of_keeps {p : Program WalletEnvironment DeploymentError α}
    (hasks : Program.OnlyAsks (fun r : WalletRequest => r.sendsTransaction = false) p)
    (hkeeps : KeepsHash hash p) :
    HoldsHash hash (Program.bind (knowing (some hash) p) fun a => pure (hash, a)) := by
  intro t x hrun
  have hnone : ∀ t' y, Program.Run (knowing (some hash) p) t' y → acceptedHashes t' = [] := by
    intro t' y h
    obtain ⟨z, h, -⟩ := Program.run_mapError.mp h
    exact acceptedHashes_eq_nil fun e he => (hasks t' z h e he).1
  rcases Program.run_bind.mp hrun with ⟨stop, hfail, hx⟩ | ⟨a, t₁, t₂, ht, hfirst, hdone⟩
  · refine ⟨hnone _ _ hfail, ?_⟩
    rw [hx]
    obtain ⟨z, hfail, hz⟩ := Program.run_mapError.mp hfail
    cases z with
    | ok a => exact absurd hz (by simp [Except.mapError])
    | error e =>
      rw [Except.error.inj hz]
      exact hkeeps t e hfail
  · obtain ⟨hnil, hx⟩ := Program.run_pure.mp hdone
    rw [hx, ht, hnil, List.append_nil]
    exact ⟨hnone _ _ hfirst, rfl⟩

/-- A program that sends and learns a hash, before one that keeps it. -/
theorem KnowsHash.bind {p : Program WalletEnvironment SubmissionStop String}
    {f : String → Program WalletEnvironment SubmissionStop (String × β)}
    (hok : ∀ t hash, Program.Run p t (.ok hash) → acceptedHashes t = [hash] ∧ hash ≠ "")
    (herror : ∀ t stop, Program.Run p t (.error stop) →
      acceptedHashes t = [] ∧ stop.knownHash = none)
    (hf : ∀ hash, hash ≠ "" → HoldsHash hash (f hash)) : KnowsHash (Program.bind p f) := by
  intro t x hrun
  rcases Program.run_bind.mp hrun with ⟨stop, hfail, hx⟩ | ⟨hash, t₁, t₂, ht, hfirst, hrest⟩
  · obtain ⟨hnone, hknown⟩ := herror t stop hfail
    rw [hx, hnone]
    show [] = stop.knownHash.toList
    rw [hknown]
    rfl
  · obtain ⟨hone, hne⟩ := hok t₁ hash hfirst
    obtain ⟨hnone, hknown⟩ := hf hash hne t₂ x hrest
    rw [ht, acceptedHashes_append, hone, hnone, hknown]
    rfl

theorem knownHash_other {e : JsError} {submittedHash : Option String} :
    SubmissionStop.knownHash (.other e, submittedHash) = nonEmptyText submittedHash := rfl

theorem nonEmptyText_some (hne : hash ≠ "") : nonEmptyText (some hash) = some hash :=
  nonEmptyText_eq_some.mpr ⟨rfl, hne⟩

/-- An error that is not a confirmation. -/
theorem keepsHash_of_other (hne : hash ≠ "") {p : Program WalletEnvironment DeploymentError α}
    (h : ∀ t e, Program.Run p t (.error e) → ∃ error, e = .other error) : KeepsHash hash p := by
  intro t e hrun
  obtain ⟨error, he⟩ := h t e hrun
  rw [he, knownHash_other, nonEmptyText_some hne]

theorem orOther_eq_error {x : Except JsError α} {e : DeploymentError} (h : orOther x = .error e) :
    ∃ error, e = .other error := by
  cases x with
  | ok a => exact absurd h (by simp [orOther, Except.mapError])
  | error error => exact ⟨error, (Except.error.inj h).symm⟩

theorem KeepsHash.bind {p : Program WalletEnvironment DeploymentError α}
    {f : α → Program WalletEnvironment DeploymentError β} (hp : KeepsHash hash p)
    (hf : ∀ a, KeepsHash hash (f a)) : KeepsHash hash (Program.bind p f) := by
  intro t e hrun
  rcases Program.run_bind.mp hrun with ⟨e', hfail, he⟩ | ⟨a, t₁, t₂, -, -, hrest⟩
  · rw [Except.error.inj he]
    exact hp t e' hfail
  · exact hf a t₂ e hrest

/-- Polling a transaction keeps its hash. -/
theorem pollSubmitted_keepsHash (hne : hash ≠ "") : KeepsHash hash (pollSubmitted hash) := by
  apply KeepsHash.bind
  · apply keepsHash_of_other hne
    intro t e hrun
    obtain ⟨reply, -, he⟩ := Program.run_await.mp hrun
    exact orOther_eq_error he.symm
  · intro txResult t e hrun
    have he := (Program.run_ofExcept.mp hrun).2.symm
    unfold confirmedResponse at he
    split at he
    · exact absurd he (by simp)
    · rw [← Except.error.inj he]
      exact nonEmptyText_some hne
    · rw [← Except.error.inj he]
      exact nonEmptyText_some hne

/-- Confirming a creation keeps the hash. -/
theorem confirmSent_keepsHash (hne : hash ≠ "") (deployment : DeployTransaction)
    (ledger : Option JsNumber) : KeepsHash hash (confirmSent deployment hash ledger) := by
  apply KeepsHash.bind
  · apply keepsHash_of_other hne
    intro t e hrun
    obtain ⟨z, -, hz⟩ := Program.run_mapError.mp hrun
    cases z with
    | ok a => exact absurd hz (by simp [Except.mapError])
    | error error => exact ⟨error, Except.error.inj hz⟩
  · intro confirmedLedger
    apply keepsHash_of_other hne
    intro t e hrun
    exact orOther_eq_error (Program.run_ofExcept.mp hrun).2.symm

theorem pollSubmitted_sendsNothing (hash : String) :
    Program.OnlyAsks (fun r : WalletRequest => r.sendsTransaction = false) (pollSubmitted hash) :=
  Program.OnlyAsks.bind (Program.onlyAsks_await rfl) fun _ => Program.exchanges_done

theorem confirmSent_sendsNothing (deployment : DeployTransaction) (hash : String)
    (ledger : Option JsNumber) :
    Program.OnlyAsks (fun r : WalletRequest => r.sendsTransaction = false)
      (confirmSent deployment hash ledger) := by
  refine Program.OnlyAsks.bind (Program.exchanges_mapError ?_) fun _ => Program.exchanges_done
  refine Program.OnlyAsks.bind (Program.onlyAsks_await rfl) fun response => ?_
  refine Program.onlyAsks_ofExcept_bind fun _ _ => ?_
  refine Program.onlyAsks_ofExcept_bind fun _ _ => ?_
  exact Program.onlyAsks_ofExcept_bind fun _ _ => Program.exchanges_done

theorem pollSubmitted_holdsHash (hne : hash ≠ "") :
    HoldsHash hash (Program.bind (knowing (some hash) (pollSubmitted hash)) fun ledger =>
      pure (hash, ledger)) :=
  HoldsHash.of_keeps (pollSubmitted_sendsNothing hash) (pollSubmitted_keepsHash hne)

/-- A hash that the relayer gives is not empty. -/
theorem relayerHash_eq_ok {relayerResult : RelayerResponse} :
    relayerHash relayerResult = .ok hash ↔ nonEmptyText relayerResult.hash = some hash := by
  unfold relayerHash
  cases nonEmptyText relayerResult.hash <;> simp

theorem relayerHash_eq_error {relayerResult : RelayerResponse} {e : DeploymentError}
    (h : relayerHash relayerResult = .error e) :
    nonEmptyText relayerResult.hash = none ∧ ∃ error, e = .other error := by
  unfold relayerHash at h
  split at h
  · exact absurd h (by simp)
  · rename_i hnone
    exact ⟨hnone, _, (Except.error.inj h).symm⟩

theorem relayAuthEntry_knowsHash (func : HostFunction) (auth : List SorobanAuthorizationEntry) :
    KnowsHash (relayAuthEntry func auth) := by
  apply KnowsHash.bind
  · intro t hash hrun
    obtain ⟨z, hrun, hz⟩ := Program.run_mapError.mp hrun
    cases z with
    | error e => exact absurd hz (by simp [Except.mapError])
    | ok sent =>
      have hsent : hash = sent := Except.ok.inj hz
      obtain ⟨relayerResult, t₁, t₂, ht, hask, hrest⟩ := Program.run_bind_ok.mp hrun
      obtain ⟨reply, ht₁, hreply⟩ := Program.run_await.mp hask
      split_ifs at hrest with haccepted
      · obtain ⟨ht₂, hhash⟩ := Program.run_ofExcept.mp hrest
        have hknown := relayerHash_eq_ok.mp hhash.symm
        cases reply with
        | error e => exact absurd hreply (by simp [orOther, Except.mapError])
        | ok response =>
          have hsame : relayerResult = response := Except.ok.inj hreply
          rw [ht, ht₁, ht₂, hsent]
          rw [hsame] at haccepted hknown
          refine ⟨?_, (nonEmptyText_eq_some.mp hknown).2⟩
          simp [acceptedHashes, acceptedHash, haccepted, hknown]
      · exact absurd (Program.run_throw.mp hrest).2 (by simp)
  · intro t stop hrun
    obtain ⟨z, hrun, hz⟩ := Program.run_mapError.mp hrun
    cases z with
    | ok a => exact absurd hz (by simp [Except.mapError])
    | error e =>
      rw [Except.error.inj hz]
      rcases Program.run_bind.mp hrun with ⟨e', hfail, he⟩ | ⟨relayerResult, t₁, t₂, ht, hask, hrest⟩
      · obtain ⟨reply, ht, hreply⟩ := Program.run_await.mp hfail
        obtain ⟨error, herror⟩ := orOther_eq_error hreply.symm
        rw [Except.error.inj he, herror, ht]
        cases reply with
        | ok response => exact absurd hreply (by simp [orOther, Except.mapError])
        | error error' => exact ⟨rfl, rfl⟩
      · obtain ⟨reply, ht₁, hreply⟩ := Program.run_await.mp hask
        cases reply with
        | error e' => exact absurd hreply (by simp [orOther, Except.mapError])
        | ok response =>
          have hsame : relayerResult = response := Except.ok.inj hreply
          rw [hsame] at hrest
          split_ifs at hrest with haccepted
          · obtain ⟨ht₂, hhash⟩ := Program.run_ofExcept.mp hrest
            obtain ⟨hnone, error, he⟩ := relayerHash_eq_error hhash.symm
            rw [ht, ht₁, ht₂, he]
            refine ⟨?_, rfl⟩
            simp [acceptedHashes, acceptedHash, haccepted, hnone]
          · obtain ⟨ht₂, hrefused⟩ := Program.run_throw.mp hrest
            rw [ht, ht₁, ht₂, Except.error.inj hrefused]
            refine ⟨?_, rfl⟩
            simp [acceptedHashes, acceptedHash, haccepted]
  · exact fun hash hne => pollSubmitted_holdsHash hne

theorem sendDeploymentTxViaRpc_knowsHash (tx : AssembledTransaction)
    (signed : Option SignedTransaction) :
    KnowsHash (knowing none (sendDeploymentTxViaRpc tx signed)) := by
  intro t x hrun
  obtain ⟨z, hrun, hx⟩ := Program.run_mapError.mp hrun
  rcases Program.run_bind.mp hrun with ⟨e, hfail, hz⟩ | ⟨outcome, t₁, t₂, ht, hsend, hrest⟩
  · obtain ⟨reply, -, hreply⟩ := Program.run_await.mp hfail
    exact absurd hreply (by simp)
  obtain ⟨reply, ht₁, hreply⟩ := Program.run_await.mp hsend
  have hsame : outcome = reply := Except.ok.inj hreply
  rw [← hsame] at ht₁
  cases outcome with
  | error refusal =>
    cases refusal with
    | stillPending =>
      obtain ⟨ht₂, hz⟩ := Program.run_throw.mp hrest
      rw [ht, ht₁, ht₂, hx, hz]
      cases hsigned : nonEmptyText (signed.map (·.hash)) with
      | none =>
        simp [acceptedHashes, acceptedHash, outcomeHash, Except.mapError,
          SubmissionStop.knownHash, hsigned]
      | some hash =>
        simp [acceptedHashes, acceptedHash, outcomeHash, Except.mapError,
          SubmissionStop.knownHash, hsigned]
    | other error =>
      obtain ⟨ht₂, hz⟩ := Program.run_throw.mp hrest
      rw [ht, ht₁, ht₂, hx, hz]
      rfl
  | ok sent =>
    dsimp only at hrest
    cases hhash : nonEmptyText sent.hash with
    | none =>
      rw [hhash] at hrest
      obtain ⟨ht₂, hz⟩ := Program.run_throw.mp hrest
      have hnone : acceptedHashes t₁ = [] := by
        rw [ht₁]
        simp only [acceptedHashes, List.filterMap_cons, acceptedHash, hhash, List.filterMap_nil]
      rw [ht, ht₂, List.append_nil, hnone, hx, hz]
      rfl
    | some hashValue =>
      have hne := (nonEmptyText_eq_some.mp hhash).2
      rw [hhash] at hrest
      have hone : acceptedHashes t₁ = [hashValue] := by
        rw [ht₁]
        simp [acceptedHashes, acceptedHash, hhash]
      rcases Program.run_bind.mp hrest with ⟨e, hfail, hz⟩ | ⟨ledger, t₃, t₄, ht₂, hledger, hdone⟩
      · obtain ⟨ht₂, he⟩ := Program.run_ofExcept.mp hfail
        have hstop : SubmissionStop.knownHash (e, none) = some hashValue := by
          unfold confirmedResponse at he
          split at he
          · exact absurd he (by simp)
          · rw [Except.error.inj he]
            exact nonEmptyText_some hne
          · rw [Except.error.inj he]
            exact nonEmptyText_some hne
        rw [ht, ht₂, List.append_nil, hone, hx, hz]
        show [hashValue] = (SubmissionStop.knownHash (e, none)).toList
        rw [hstop]
        rfl
      · obtain ⟨ht₃, -⟩ := Program.run_ofExcept.mp hledger
        obtain ⟨ht₄, hz⟩ := Program.run_pure.mp hdone
        rw [ht, ht₂, ht₃, ht₄, List.append_nil, List.append_nil, hone, hx, hz]
        rfl

theorem relayEnvelope_knowsHash (tx : AssembledTransaction) (signed : SignedTransaction)
    (forceMethod : Option SubmissionMethod) :
    KnowsHash (relayEnvelope tx signed forceMethod) := by
  intro t x hrun
  rcases Program.run_bind.mp hrun with ⟨stop, hfail, hx⟩ | ⟨relayerResult, t₁, t₂, ht, hask, hrest⟩
  · obtain ⟨z, hfail, hz⟩ := Program.run_mapError.mp hfail
    obtain ⟨reply, ht, hreply⟩ := Program.run_await.mp hfail
    cases reply with
    | ok response =>
      rw [hreply] at hz
      exact absurd hz (by simp [orOther, Except.mapError])
    | error error =>
      rw [hreply] at hz
      rw [ht, hx, Except.error.inj hz]
      rfl
  obtain ⟨z, hask, hz⟩ := Program.run_mapError.mp hask
  obtain ⟨reply, ht₁, hreply⟩ := Program.run_await.mp hask
  rw [hreply] at hz
  cases reply with
  | error error => exact absurd hz (by simp [orOther, Except.mapError])
  | ok response =>
    have hsame : relayerResult = response := Except.ok.inj hz
    rw [← hsame] at ht₁
    by_cases haccepted : relayerResult.success = true
    · rw [if_pos haccepted] at hrest
      -- the first exchange gives the hash that the rest of the run holds
      have hfirst : acceptedHashes t₁ = (nonEmptyText relayerResult.hash).toList := by
        rw [ht₁]
        cases hhash : nonEmptyText relayerResult.hash <;>
          simp [acceptedHashes, acceptedHash, haccepted, hhash]
      rw [ht, acceptedHashes_append, hfirst]
      rcases Program.run_bind.mp hrest with ⟨stop, hfail, hx⟩ | ⟨hash, t₃, t₄, ht₂, hhash, hrest⟩
      · obtain ⟨z, hfail, hz⟩ := Program.run_mapError.mp hfail
        obtain ⟨ht₂, hz'⟩ := Program.run_ofExcept.mp hfail
        rw [hz'] at hz
        cases herror : relayerHash relayerResult with
        | ok hash =>
          rw [herror] at hz
          exact absurd hz (by simp [Except.mapError])
        | error e =>
          rw [herror] at hz
          obtain ⟨hnone, error, he⟩ := relayerHash_eq_error herror
          rw [ht₂, hx, hnone, Except.error.inj hz, he]
          rfl
      · obtain ⟨z, hhash, hz⟩ := Program.run_mapError.mp hhash
        obtain ⟨ht₃, hz'⟩ := Program.run_ofExcept.mp hhash
        rw [hz'] at hz
        cases herror : relayerHash relayerResult with
        | error e =>
          rw [herror] at hz
          exact absurd hz (by simp [Except.mapError])
        | ok hash' =>
          rw [herror] at hz
          have hsame : hash = hash' := Except.ok.inj hz
          have hknown := relayerHash_eq_ok.mp herror
          rw [← hsame] at hknown
          obtain ⟨hnone, houtcome⟩ :=
            pollSubmitted_holdsHash (nonEmptyText_eq_some.mp hknown).2 t₄ x hrest
          rw [ht₂, ht₃, List.nil_append, hnone, hknown, houtcome]
          rfl
    · rw [if_neg haccepted] at hrest
      have hfirst : acceptedHashes t₁ = [] := by
        rw [ht₁]
        simp [acceptedHashes, acceptedHash, haccepted]
      rw [ht, acceptedHashes_append, hfirst, List.nil_append]
      by_cases hforced : forceMethod = some .relayer
      · rw [if_pos hforced] at hrest
        obtain ⟨ht₂, hx⟩ := Program.run_throw.mp hrest
        rw [ht₂, hx]
        rfl
      · rw [if_neg hforced] at hrest
        exact sendDeploymentTxViaRpc_knowsHash tx (some signed) t₂ x hrest

theorem sendDeployment_knowsHash (config : WalletConfig) (deployment : DeployTransaction)
    (signed : Option SignedTransaction) (forceMethod : Option SubmissionMethod) :
    KnowsHash (sendDeployment config deployment signed forceMethod) := by
  cases deployment with
  | authEntry func auth => exact relayAuthEntry_knowsHash func auth
  | assembled tx =>
    show KnowsHash (sendEnvelope config tx signed forceMethod)
    cases signed with
    | none => exact sendDeploymentTxViaRpc_knowsHash tx none
    | some envelope =>
      unfold sendEnvelope
      dsimp only
      split
      · exact relayEnvelope_knowsHash tx envelope forceMethod
      · exact sendDeploymentTxViaRpc_knowsHash tx (some envelope)

/-- A hash that an outcome knows is not empty. -/
theorem sendDeployment_hash_ne_empty {config : WalletConfig} {deployment : DeployTransaction}
    {signed : Option SignedTransaction} {forceMethod : Option SubmissionMethod}
    {sent : String × Option JsNumber}
    (hrun : Program.Run (sendDeployment config deployment signed forceMethod) t (.ok sent)) :
    sent.1 ≠ "" := by
  have hknows := sendDeployment_knowsHash config deployment signed forceMethod t _ hrun
  have hmem : sent.1 ∈ acceptedHashes t := by
    rw [hknows]
    exact List.mem_singleton.mpr rfl
  -- every hash that an exchange gives is one that is not empty
  obtain ⟨e, -, he⟩ := List.mem_filterMap.mp hmem
  unfold acceptedHash at he
  split at he
  · split_ifs at he
    exact (nonEmptyText_eq_some.mp he).2
  · split_ifs at he
    exact (nonEmptyText_eq_some.mp he).2
  · exact (nonEmptyText_eq_some.mp he).2
  · exact (nonEmptyText_eq_some.mp he).2
  · exact absurd he (by simp)

/-- A submission knows the hash of a transaction exactly where one was accepted. -/
theorem submitAndConfirm_knowsHash (config : WalletConfig) (deployment : DeployTransaction)
    (signed : Option SignedTransaction) (forceMethod : Option SubmissionMethod) :
    KnowsHash (submitAndConfirm config deployment signed forceMethod) := by
  intro t x hrun
  have hsend := sendDeployment_knowsHash config deployment signed forceMethod
  rcases Program.run_bind.mp hrun with ⟨stop, hfail, hx⟩ | ⟨sent, t₁, t₂, ht, hfirst, hrest⟩
  · rw [hx]
    exact hsend t _ hfail
  · have hne := sendDeployment_hash_ne_empty hfirst
    have hholds := HoldsHash.of_keeps (confirmSent_sendsNothing deployment sent.1 sent.2)
      (confirmSent_keepsHash hne deployment sent.2)
    obtain ⟨hnone, houtcome⟩ := hholds t₂ x hrest
    rw [ht, acceptedHashes_append, hsend t₁ _ hfirst, hnone, houtcome]
    rfl

end hashes

end SmartAccountKit
