import SmartAccountKit.ConnectionAddress
import SmartAccountKit.Lib.Faults

/-!
# Connecting while the storage may fail

The storage adapter may reject every call, and the listeners of the kit may
throw. Connecting writes the record, sets the connected state, tells the
listeners and saves the session in this order, after all checks. The kit, its
listeners and the session are therefore as before unless all checks have passed,
and agree with the outcome unless one of the last two steps is what fails.
-/

namespace SmartAccountKit
open Lib

/-! ## The environment -/

/-- A call of the storage adapter. -/
def WalletRequest.isStorage : WalletRequest → Bool
  | .getCredential _ | .getAllCredentials | .saveCredential _ | .updateCredential _ _
  | .deleteCredential _ | .getSession | .saveSession _ | .clearSession => true
  | _ => false

/-- The environment of a wallet whose storage may reject calls. -/
abbrev FaultyWallet : Interface := WalletEnvironment.withFaults JsError WalletRequest.isStorage

/-- Lifecycle code over a storage that may reject calls. -/
abbrev FaultyProgram (α : Type) := Program FaultyWallet JsError α

/-- Code that handles no rejection of the storage, over such a storage. -/
abbrev overStorage {α : Type} (p : WalletProgram α) : FaultyProgram α :=
  p.withFaults WalletRequest.isStorage

instance (r : WalletRequest) : Nonempty (WalletEnvironment.Reply r) := by
  cases r <;> first
    | exact ⟨(.error (JsError.plain "") : Except JsError _)⟩
    | exact ⟨()⟩
    | exact ⟨(none : Option _)⟩
    | exact ⟨([] : List _)⟩
    | exact ⟨(0 : ℕ)⟩
    | exact ⟨""⟩
    | exact ⟨true⟩
    | exact ⟨(0 : Int64)⟩
    | exact ⟨(.error .stillPending : Except SendError SentTransaction)⟩
    | exact ⟨(.error ⟨JsError.plain "", none⟩ : Except HistoryError HistoricalTransaction)⟩

/-- What a connection changes: the contract and the credential that the kit is connected with, and
the stored session. -/
structure KitState where
  connected : Option (String × String)
  session : Option StoredSession

/-- The connected state and the session as they are written. -/
def kitMemory : Memory WalletEnvironment KitState where
  serve
    | .setConnectedState contractId credentialId, s =>
      some ((), { s with connected := some (contractId, credentialId) })
    | .saveSession session, s => some ((), { s with session := some session })
    | .clearSession, s => some ((), { s with session := none })
    | _, _ => none

/-- The wallet that a request announces as connected. -/
def WalletRequest.announces? : WalletRequest → Option (String × String)
  | .emit (.walletConnected contractId credentialId) => some (contractId, credentialId)
  | _ => none

/-- The `walletConnected` events of a run, oldest first. One at which a listener threw is among
them. -/
def emittedConnections (t : History FaultyWallet) : List (String × String) :=
  t.filterMap fun e => WalletRequest.announces? e.request

/-- A request that changes the connected state or the session, or tells the listeners. -/
def WalletRequest.touchesConnection : WalletRequest → Bool
  | .setConnectedState _ _ | .emit _ | .saveSession _ | .clearSession => true
  | _ => false

theorem WalletRequest.touchesConnection_of_connection {r : WalletRequest}
    {target : String × String} (h : r.connection? = some target) : r.touchesConnection = true := by
  cases r <;> first | rfl | exact nomatch h

/-- Only an emit announces, and it is no storage call. -/
theorem WalletRequest.announces?_of_isStorage {r : WalletRequest} (h : r.isStorage = true) :
    r.announces? = none := by
  cases r <;> first | rfl | exact absurd h Bool.false_ne_true

theorem WalletRequest.announces?_of_not_touches {r : WalletRequest}
    (h : r.touchesConnection = false) : r.announces? = none := by
  cases r <;> first | rfl | exact absurd h.symm Bool.false_ne_true

/-- The events are among the answered requests. -/
theorem emittedConnections_eq (t : History FaultyWallet) :
    emittedConnections t = t.answered.filterMap fun e => WalletRequest.announces? e.request := by
  rw [emittedConnections, History.answered, List.filterMap_filterMap]
  congr 1
  funext e
  by_cases hrejected : e.Rejected
  · rw [WalletRequest.announces?_of_isStorage (Exchange.fallible_of_rejected hrejected)]
    obtain ⟨error, herror⟩ := hrejected
    rw [Exchange.answered?, herror]
    rfl
  · obtain ⟨e', rfl⟩ := Exchange.eq_accept hrejected
    rfl

/-- Other requests announce nothing. -/
theorem announced_eq_nil {t : History WalletEnvironment}
    (h : ∀ e ∈ t, WalletRequest.touchesConnection e.request = false) :
    t.filterMap (fun e => WalletRequest.announces? e.request) = [] :=
  List.filterMap_eq_nil_iff.mpr fun e he => WalletRequest.announces?_of_not_touches (h e he)

/-- Other requests leave the state of the kit as it is. -/
theorem kitMemory_threads {s : KitState} {t : History WalletEnvironment}
    (h : ∀ e ∈ t, WalletRequest.touchesConnection e.request = false) : kitMemory.Threads s t s := by
  apply Memory.threads_other
  intro e he
  have hrequest := h e he
  generalize e.request = r at hrequest
  cases r with
  | setConnectedState | saveSession | clearSession => exact nomatch hrequest
  | _ => rfl

theorem kitMemory_threads_eq {s s' : KitState} {t : History WalletEnvironment}
    (h : ∀ e ∈ t, WalletRequest.touchesConnection e.request = false)
    (hthreads : kitMemory.Threads s t s') : s' = s :=
  kitMemory.threads_functional hthreads (kitMemory_threads h)

/-! ## The last part of a connection -/

/-- The exchanges that save the record, connect the kit and tell its listeners. -/
def announceExchanges (verified : StoredCredential) (reply : Except JsError Unit) :
    History WalletEnvironment :=
  [⟨.saveCredential verified, ()⟩,
    ⟨.setConnectedState verified.contractId verified.credentialId, ()⟩,
    ⟨.emit (.walletConnected verified.contractId verified.credentialId), reply⟩]

/-- The exchanges that save a connection, up to saving the session. -/
def commitExchanges (verified : StoredCredential) (now : ℕ) : History WalletEnvironment :=
  announceExchanges verified (.ok ()) ++ [⟨.dateNow, now⟩]

/-- The session that is saved at a time. -/
def savedSession (config : ConnectionConfig) (verified : StoredCredential) (now : ℕ) :
    StoredSession :=
  { contractId := verified.contractId
    credentialId := verified.credentialId
    expiresAt := some (.ofNat (now + config.sessionExpiryMs)) }

/-- The result of a connection with a verified record. -/
def connectionResult (verified : StoredCredential) : ConnectWalletResult :=
  { credentialId := verified.credentialId
    contractId := verified.contractId
    credential := verified }

/-- Saving a connection ends where the listeners throw, or it saves the session and succeeds. -/
theorem run_saveConnection {config : ConnectionConfig} {verified : StoredCredential}
    {t : History WalletEnvironment} {x : Except JsError ConnectWalletResult} :
    Program.Run (saveConnection config verified) t x ↔
      (∃ error, t = announceExchanges verified (.error error) ∧ x = .error error) ∨
      ∃ now, t = commitExchanges verified now ++
          [⟨.saveSession (savedSession config verified now), ()⟩] ∧
        x = .ok (connectionResult verified) := by
  constructor
  · intro h
    obtain ⟨_, t₁, rfl, h₁⟩ := Program.run_ask.mp h
    obtain ⟨_, t₂, rfl, h₂⟩ := Program.run_ask.mp h₁
    obtain ⟨told, t₃, rfl, h₃⟩ := Program.run_ask.mp h₂
    cases told with
    | error error =>
      obtain ⟨rfl, rfl⟩ := Program.run_done.mp h₃
      exact Or.inl ⟨error, rfl, rfl⟩
    | ok _ =>
      obtain ⟨now, t₄, rfl, h₄⟩ := Program.run_ask.mp h₃
      obtain ⟨_, t₅, rfl, h₅⟩ := Program.run_ask.mp h₄
      obtain ⟨rfl, rfl⟩ := Program.run_done.mp h₅
      exact Or.inr ⟨now, rfl, rfl⟩
  · rintro (⟨error, rfl, rfl⟩ | ⟨now, rfl, rfl⟩)
    · refine Program.run_ask.mpr ⟨(), _, rfl, ?_⟩
      refine Program.run_ask.mpr ⟨(), _, rfl, ?_⟩
      refine Program.run_ask.mpr ⟨.error error, _, rfl, ?_⟩
      exact Program.Run.done _
    · refine Program.run_ask.mpr ⟨(), _, rfl, ?_⟩
      refine Program.run_ask.mpr ⟨(), _, rfl, ?_⟩
      refine Program.run_ask.mpr ⟨.ok (), _, rfl, ?_⟩
      refine Program.run_ask.mpr ⟨now, _, rfl, ?_⟩
      refine Program.run_ask.mpr ⟨(), _, rfl, ?_⟩
      exact Program.Run.done _

/-- A run fails without touching the connection, or saves a verified record after a part that does
not touch it. -/
def CommitsLast (config : ConnectionConfig) (p : WalletProgram ConnectWalletResult) : Prop :=
  ∀ t x, Program.Run p t x →
    (x.isOk = false ∧ ∀ e ∈ t, WalletRequest.touchesConnection e.request = false) ∨
    ∃ t₁ t₂ verified, t = t₁ ++ t₂ ∧
      (∀ e ∈ t₁, WalletRequest.touchesConnection e.request = false) ∧
      Program.Run (saveConnection config verified) t₂ x

theorem commitsLast_saveConnection (config : ConnectionConfig) (verified : StoredCredential) :
    CommitsLast config (saveConnection config verified) :=
  fun t _ hrun => Or.inr ⟨[], t, verified, rfl, List.forall_mem_nil _, hrun⟩

/-- A part that does not touch the connection comes before one that commits last. -/
theorem commitsLast_bind {α : Type} {config : ConnectionConfig} {p : WalletProgram α}
    {f : α → WalletProgram ConnectWalletResult}
    (hp : Program.Exchanges (fun r : WalletRequest => r.touchesConnection = false)
      (fun _ => True) p)
    (hf : ∀ a, CommitsLast config (f a)) : CommitsLast config (Program.bind p f) := by
  intro t x hrun
  rcases Program.run_bind.mp hrun with ⟨error, hfail, rfl⟩ | ⟨a, t₁, t₂, rfl, hfirst, hsecond⟩
  · exact Or.inl ⟨rfl, fun e he => (hp t _ hfail e he).1⟩
  have ht₁ : ∀ e ∈ t₁, WalletRequest.touchesConnection e.request = false :=
    fun e he => (hp t₁ _ hfirst e he).1
  rcases hf a t₂ x hsecond with ⟨hx, ht₂⟩ | ⟨t₃, t₄, verified, rfl, ht₃, hsave⟩
  · exact Or.inl ⟨hx, List.forall_mem_append.mpr ⟨ht₁, ht₂⟩⟩
  · exact Or.inr ⟨t₁ ++ t₃, t₄, verified, (List.append_assoc ..).symm,
      List.forall_mem_append.mpr ⟨ht₁, ht₃⟩, hsave⟩

theorem WritesNothing.keepsConnection {ε α : Type} {p : Program WalletEnvironment ε α}
    (h : WritesNothing p) :
    Program.Exchanges (fun r : WalletRequest => r.touchesConnection = false) (fun _ => True) p := by
  refine Program.Exchanges.mono h fun r hr => ?_
  cases r <;> first | rfl | exact nomatch hr

/-- Connecting to a contract saves the connection after every check. -/
theorem connectToContract_commitsLast (config : ConnectionConfig)
    (credential : Option StoredCredential) (credentialId contractId : String)
    (usedDerivedCandidate : Bool) (proof : Option FreshOwnershipProof)
    (allowAuthentication : Bool) :
    CommitsLast config (connectToContract config credential credentialId contractId
      usedDerivedCandidate proof allowAuthentication) := by
  apply commitsLast_bind (readInstance_requests rfl rfl)
  intro executable
  apply commitsLast_bind Program.exchanges_done
  intro _
  apply commitsLast_bind (selectBirthCandidate_writesNothing config credential credentialId
    contractId usedDerivedCandidate).keepsConnection
  intro candidate
  apply commitsLast_bind (requireVerifiedBirth_onlyChecks config credential credentialId
    contractId candidate).onlyVerifies.writesNothing.keepsConnection
  intro birth
  apply commitsLast_bind Program.exchanges_done
  intro publicKey
  apply commitsLast_bind (requireLiveSigner_onlyChecks config credential credentialId contractId
    publicKey).onlyVerifies.writesNothing.keepsConnection
  intro _
  apply commitsLast_bind (requireOwnership_onlyVerifies config credential credentialId contractId
    publicKey proof allowAuthentication).writesNothing.keepsConnection
  intro _
  exact commitsLast_saveConnection config _

theorem connectWithCredentials_commitsLast (config : ConnectionConfig)
    (credentialId contractId : Option String) (proof : Option FreshOwnershipProof)
    (allowAuthentication : Bool) :
    CommitsLast config
      (connectWithCredentials config credentialId contractId proof allowAuthentication) := by
  unfold connectWithCredentials
  cases nonEmptyText credentialId with
  | none =>
    intro t x hrun
    obtain ⟨rfl, rfl⟩ := Program.run_throw.mp hrun
    exact Or.inl ⟨rfl, fun _ he => nomatch he⟩
  | some credentialId =>
    apply commitsLast_bind (Program.exchanges_await rfl fun _ _ => trivial)
    intro credential
    apply commitsLast_bind Program.exchanges_done
    intro target
    exact connectToContract_commitsLast config credential credentialId target.1 target.2 proof
      allowAuthentication

/-! ## The steps that may fail after the kit is connected -/

/-- The call that saves the session was rejected. -/
def SaveSessionRejected (t : History FaultyWallet) : Prop :=
  ∃ e ∈ t, e.Rejected ∧ ∃ session, e.request = .saveSession session

/-- Telling the listeners that a wallet is connected threw. -/
def ListenersThrew (t : History FaultyWallet) : Prop :=
  ∃ contractId credentialId error,
    (Exchange.accept ⟨.emit (.walletConnected contractId credentialId), .error error⟩ :
      Exchange FaultyWallet) ∈ t

/-- One of the two steps after the kit is connected failed. -/
def CommitBroken (t : History FaultyWallet) : Prop :=
  SaveSessionRejected t ∨ ListenersThrew t

theorem CommitBroken.mono {t t' : History FaultyWallet} (h : CommitBroken t)
    (hsub : ∀ e ∈ t, e ∈ t') : CommitBroken t' := by
  refine h.imp (fun hrejected => ?_) fun hthrew => ?_
  · obtain ⟨e, he, hsession⟩ := hrejected
    exact ⟨e, hsub e he, hsession⟩
  · obtain ⟨contractId, credentialId, error, hmem⟩ := hthrew
    exact ⟨contractId, credentialId, error, hsub _ hmem⟩

theorem not_saveSessionRejected_accept (t : History WalletEnvironment) :
    ¬SaveSessionRejected (t.map Exchange.accept) := by
  intro h
  obtain ⟨e, he, ⟨error, herror⟩, -⟩ := h
  obtain ⟨e₀, -, rfl⟩ := List.mem_map.mp he
  exact absurd herror (by simp [Exchange.accept])

/-- Listeners that threw are seen in the answered requests. -/
theorem listenersThrew_iff {t : History FaultyWallet} :
    ListenersThrew t ↔ ∃ contractId credentialId error,
      (⟨.emit (.walletConnected contractId credentialId), .error error⟩ :
        Exchange WalletEnvironment) ∈ t.answered := by
  unfold ListenersThrew
  simp only [mem_answered]

theorem not_listenersThrew_of_quiet {t : History FaultyWallet}
    (h : ∀ e ∈ t.answered, WalletRequest.touchesConnection e.request = false) :
    ¬ListenersThrew t := by
  rw [listenersThrew_iff]
  intro hthrew
  obtain ⟨_, _, _, hmem⟩ := hthrew
  exact Bool.noConfusion (h _ hmem)

/-- A connection without a rejected session can be cut at a storage call only before its record is
saved. -/
theorem saveConnection_cut {config : ConnectionConfig} {verified : StoredCredential}
    {u t' : History WalletEnvironment} {r : WalletRequest} {reply : WalletReply r}
    {x : Except JsError ConnectWalletResult}
    (hrun : Program.Run (saveConnection config verified) (u ++ ⟨r, reply⟩ :: t') x)
    (hr : r.isStorage = true) :
    u = [] ∧ r = .saveCredential verified ∨
      ∃ now, u = commitExchanges verified now ∧
        r = .saveSession (savedSession config verified now) := by
  have hstorage : ∀ {e : Exchange WalletEnvironment}, e = ⟨r, reply⟩ →
      WalletRequest.isStorage e.request = true := by
    intro e he
    rw [he]
    exact hr
  rcases run_saveConnection.mp hrun with ⟨error, h, -⟩ | ⟨now, h, -⟩
  · rcases u with _ | ⟨e₁, _ | ⟨e₂, _ | ⟨e₃, u⟩⟩⟩
    · cases h
      exact Or.inl ⟨rfl, rfl⟩
    · exact Bool.noConfusion (hstorage (List.cons.inj (List.cons.inj h).2).1.symm)
    · cases h
      exact Bool.noConfusion hr
    · have hlength := congrArg List.length h
      simp [announceExchanges] at hlength
  · rcases u with _ | ⟨e₁, _ | ⟨e₂, _ | ⟨e₃, _ | ⟨e₄, _ | ⟨e₅, u⟩⟩⟩⟩⟩
    · cases h
      exact Or.inl ⟨rfl, rfl⟩
    · cases h
      exact Bool.noConfusion hr
    · cases h
      exact Bool.noConfusion hr
    · cases h
      exact Bool.noConfusion hr
    · cases h
      exact Or.inr ⟨now, rfl, rfl⟩
    · have hlength := congrArg List.length h
      simp [commitExchanges, announceExchanges] at hlength

/-- The last part of a connection that breaks: the listeners were told, and no session was saved. -/
def HalfConnected (verified : StoredCredential) (t : History WalletEnvironment) : Prop :=
  ∃ reply last, t = announceExchanges verified reply ++ last ∧
    ∀ e ∈ last, WalletRequest.touchesConnection e.request = false

/-- How a connection over a storage that may fail ends: it fails without touching the connection,
it saves everything, or it breaks after the kit is connected. -/
def ConnectionOutcome (config : ConnectionConfig) (t : History FaultyWallet)
    (x : Except JsError ConnectWalletResult) : Prop :=
  (¬CommitBroken t ∧ x.isOk = false ∧
    ∀ e ∈ t.answered, WalletRequest.touchesConnection e.request = false) ∨
  ∃ t₁ t₂ verified, t.answered = t₁ ++ t₂ ∧
    (∀ e ∈ t₁, WalletRequest.touchesConnection e.request = false) ∧
    (¬CommitBroken t ∧ x = .ok (connectionResult verified) ∧
        (∃ now, t₂ = commitExchanges verified now ++
          [⟨.saveSession (savedSession config verified now), ()⟩]) ∨
      CommitBroken t ∧ x.isOk = false ∧ HalfConnected verified t₂)

section outcomes

variable {config : ConnectionConfig} {p : WalletProgram ConnectWalletResult}
  {t : History WalletEnvironment} {x : Except JsError ConnectWalletResult}

/-- A run in which the storage rejects nothing. -/
theorem CommitsLast.outcome_accept (hp : CommitsLast config p) (hrun : Program.Run p t x) :
    ConnectionOutcome config (t.map Exchange.accept) x := by
  unfold ConnectionOutcome
  rw [answered_map_accept]
  rcases hp t x hrun with ⟨hx, ht⟩ | ⟨t₁, t₂, verified, rfl, ht₁, hsave⟩
  · have hquiet : ¬ListenersThrew (t.map Exchange.accept) :=
      not_listenersThrew_of_quiet (by rw [answered_map_accept]; exact ht)
    exact Or.inl ⟨not_or.mpr ⟨not_saveSessionRejected_accept t, hquiet⟩, hx, ht⟩
  refine Or.inr ⟨t₁, t₂, verified, rfl, ht₁, ?_⟩
  rcases run_saveConnection.mp hsave with ⟨error, rfl, rfl⟩ | ⟨now, rfl, rfl⟩
  · have hthrew : ListenersThrew ((t₁ ++ announceExchanges verified (.error error)).map
        Exchange.accept) := by
      rw [listenersThrew_iff, answered_map_accept]
      exact ⟨verified.contractId, verified.credentialId, error,
        List.mem_append_right t₁ (by simp [announceExchanges])⟩
    exact Or.inr ⟨Or.inr hthrew, rfl, .error error, [], (List.append_nil _).symm,
      List.forall_mem_nil _⟩
  · refine Or.inl ⟨not_or.mpr ⟨not_saveSessionRejected_accept _, ?_⟩, rfl, now, rfl⟩
    rw [listenersThrew_iff, answered_map_accept]
    intro hthrew
    obtain ⟨contractId, credentialId, error, hmem⟩ := hthrew
    -- before the last part nothing is announced, and there the listeners did not throw
    rcases List.mem_append.mp hmem with hmem | hmem
    · exact Bool.noConfusion (ht₁ _ hmem)
    · simp [commitExchanges, announceExchanges] at hmem

/-- A run that ends where the storage rejects a call. -/
theorem CommitsLast.outcome_reject (hp : CommitsLast config p) {r : WalletRequest}
    (hreaches : Program.Reaches p t r) (hr : r.isStorage = true) (error : JsError) :
    ConnectionOutcome config (t.map Exchange.accept ++ [Exchange.reject r hr error])
      (.error error) := by
  have hanswered := answered_reject t hr error
  have hnot : (∀ session, r ≠ .saveSession session) →
      (∀ e ∈ t, WalletRequest.touchesConnection e.request = false) →
      ¬CommitBroken (t.map Exchange.accept ++ [Exchange.reject r hr error]) := by
    intro hne hquiet
    refine not_or.mpr ⟨fun h => ?_, not_listenersThrew_of_quiet ?_⟩
    · obtain ⟨e, he, hrejected, session, hsession⟩ := h
      rcases List.mem_append.mp he with he | he
      · exact not_saveSessionRejected_accept t ⟨e, he, hrejected, session, hsession⟩
      · rw [List.mem_singleton.mp he] at hsession
        exact hne session hsession
    · rw [hanswered]
      exact hquiet
  unfold ConnectionOutcome
  rw [hanswered]
  obtain ⟨reply, t', y, hrun⟩ := hreaches
  rcases hp _ y hrun with ⟨-, ht⟩ | ⟨t₁, t₂, verified, ht, ht₁, hsave⟩
  · have hr' : r.touchesConnection = false := ht ⟨r, reply⟩ (by simp)
    have hquiet : ∀ e ∈ t, WalletRequest.touchesConnection e.request = false :=
      fun e he => ht e (List.mem_append_left _ he)
    refine Or.inl ⟨hnot (fun session h => ?_) hquiet, rfl, hquiet⟩
    rw [h] at hr'
    exact Bool.noConfusion hr'
  -- the rejected call is before the last part, or one of the two storage calls in it
  rcases List.append_eq_append_iff.mp ht with ⟨u, rfl, hu⟩ | ⟨u, rfl, hu⟩
  · have hquiet : ∀ e ∈ t, WalletRequest.touchesConnection e.request = false :=
      fun e he => ht₁ e (List.mem_append_left u he)
    refine Or.inl ⟨hnot (fun session h => ?_) hquiet, rfl, hquiet⟩
    cases u with
    | nil =>
      rw [List.nil_append] at hu
      rw [← hu] at hsave
      rcases saveConnection_cut (u := []) hsave hr with ⟨-, hsaves⟩ | ⟨now, hcommit, -⟩
      · rw [h] at hsaves
        exact WalletRequest.noConfusion hsaves
      · exact absurd hcommit (by simp [commitExchanges, announceExchanges])
    | cons e u =>
      have hhead := (List.cons.inj hu).1
      have hlast := ht₁ e (by simp)
      rw [← hhead] at hlast
      have htouches : r.touchesConnection = true := by
        rw [h]
        rfl
      exact absurd (htouches.symm.trans hlast) (by simp)
  · rw [hu] at hsave
    rcases saveConnection_cut hsave hr with ⟨rfl, hsaves⟩ | ⟨now, rfl, hsession⟩
    · rw [List.append_nil] at hnot ⊢
      refine Or.inl ⟨hnot (fun session h => ?_) ht₁, rfl, ht₁⟩
      rw [h] at hsaves
      exact WalletRequest.noConfusion hsaves
    · have hrejected : SaveSessionRejected (List.map Exchange.accept
          (t₁ ++ commitExchanges verified now) ++ [Exchange.reject r hr error]) :=
        ⟨_, List.mem_append_right _ (List.mem_singleton_self _), ⟨error, rfl⟩, _, hsession⟩
      refine Or.inr ⟨t₁, _, verified, rfl, ht₁, Or.inr ⟨Or.inl hrejected, rfl, .ok (),
        [⟨.dateNow, now⟩], rfl, fun e he => ?_⟩⟩
      rw [List.mem_singleton.mp he]
      rfl

theorem CommitsLast.run (hp : CommitsLast config p) {t : History FaultyWallet}
    (hrun : Program.Run (overStorage p) t x) : ConnectionOutcome config t x := by
  rcases Program.run_withFaults hrun with ⟨t₀, rfl, hrun₀⟩ | ⟨t₀, r, hr, error, rfl, rfl, hreaches⟩
  · exact hp.outcome_accept hrun₀
  · exact hp.outcome_reject hreaches hr error

end outcomes

/-! ## All or nothing -/

/-- A connection that fails leaves the kit and the session as they were and tells the listeners
nothing, and one that succeeds leaves the kit connected with the new wallet and its session stored,
with one event of it. -/
def AllOrNothing (s : KitState) (t : History FaultyWallet) (x : Except JsError ConnectWalletResult)
    (s' : KitState) : Prop :=
  match x with
  | .error _ => s' = s ∧ emittedConnections t = []
  | .ok result =>
    s'.connected = some (result.contractId, result.credentialId) ∧
    (∃ session, s'.session = some session ∧ session.contractId = result.contractId ∧
      session.credentialId = result.credentialId) ∧
    emittedConnections t = [(result.contractId, result.credentialId)]

/-- The state after the listeners were told. -/
theorem kitMemory_announce {s : KitState} {verified : StoredCredential}
    {reply : Except JsError Unit} :
    kitMemory.Threads s (announceExchanges verified reply)
      { s with connected := some (verified.contractId, verified.credentialId) } := by
  refine Memory.Threads.cons (Memory.Step.other rfl) ?_
  refine Memory.Threads.cons (Memory.Step.served rfl) ?_
  refine Memory.Threads.cons (Memory.Step.other rfl) ?_
  exact Memory.Threads.nil _

/-- The state after a connection is saved. -/
theorem kitMemory_commit {s : KitState} {config : ConnectionConfig} {verified : StoredCredential}
    {now : ℕ} :
    kitMemory.Threads s (commitExchanges verified now ++
        [⟨.saveSession (savedSession config verified now), ()⟩])
      { connected := some (verified.contractId, verified.credentialId)
        session := some (savedSession config verified now) } := by
  rw [commitExchanges, List.append_assoc]
  refine Memory.threads_append.mpr ⟨_, kitMemory_announce, ?_⟩
  refine Memory.Threads.cons (Memory.Step.other rfl) ?_
  refine Memory.Threads.cons (Memory.Step.served rfl) ?_
  exact Memory.Threads.nil _

/-- Connecting is all or nothing exactly when neither telling the listeners nor saving the session
is what fails. -/
theorem connectWithCredentials_allOrNothing_iff {config : ConnectionConfig}
    {credentialId contractId : Option String} {proof : Option FreshOwnershipProof}
    {allowAuthentication : Bool} {t : History FaultyWallet}
    {x : Except JsError ConnectWalletResult} {s s' : KitState}
    (hrun : Program.Run (overStorage (connectWithCredentials config credentialId contractId proof
      allowAuthentication)) t x)
    (hthreads : kitMemory.Threads s t.answered s') :
    AllOrNothing s t x s' ↔ ¬SaveSessionRejected t ∧ ¬ListenersThrew t := by
  rw [← not_or]
  unfold AllOrNothing
  rw [emittedConnections_eq]
  rcases (connectWithCredentials_commitsLast config credentialId contractId proof
    allowAuthentication).run hrun with ⟨hsound, hx, ht⟩ |
      ⟨t₁, t₂, verified, ht, ht₁, ⟨hsound, rfl, now, rfl⟩ |
        ⟨hbroken, hx, reply, last, rfl, hlast⟩⟩
  · have hstate := kitMemory_threads_eq ht hthreads
    cases x with
    | ok result => exact Bool.noConfusion hx
    | error error => exact iff_of_true ⟨hstate, announced_eq_nil ht⟩ hsound
  · have hcommit := Memory.threads_append.mpr ⟨s, kitMemory_threads ht₁,
      @kitMemory_commit s config verified now⟩
    rw [ht] at hthreads ⊢
    rw [kitMemory.threads_functional hthreads hcommit, List.filterMap_append, announced_eq_nil ht₁]
    exact iff_of_true ⟨rfl, ⟨_, rfl, rfl, rfl⟩, rfl⟩ hsound
  · cases x with
    | ok result => exact Bool.noConfusion hx
    | error error =>
      -- the event was emitted
      refine iff_of_false (fun h => ?_) (not_not.mpr hbroken)
      have hevents := h.2
      rw [ht, List.filterMap_append, List.filterMap_append, announced_eq_nil ht₁,
        announced_eq_nil hlast] at hevents
      exact absurd hevents (by simp [announceExchanges, WalletRequest.announces?])

/-- The sample connection saves a verified record. -/
theorem sampleConnection_saves : ∃ t₁ verified now,
    (∀ e ∈ t₁, WalletRequest.touchesConnection e.request = false) ∧
    Program.Run (connectWithCredentials sampleConnectionConfig (some "AQ") none none false)
      (t₁ ++ commitExchanges verified now ++
        [⟨.saveSession (savedSession sampleConnectionConfig verified now), ()⟩])
      (.ok (connectionResult verified)) := by
  obtain ⟨t, x, e, target, hrun, hok, he, htarget⟩ := sampleConnection_run
  rcases connectWithCredentials_commitsLast _ _ _ _ _ _ _ hrun with
    ⟨hx, -⟩ | ⟨t₁, t₂, verified, rfl, ht₁, hsave⟩
  · rw [hok] at hx
    exact Bool.noConfusion hx
  rcases run_saveConnection.mp hsave with ⟨error, -, rfl⟩ | ⟨now, rfl, rfl⟩
  · exact Bool.noConfusion hok
  · rw [← List.append_assoc] at hrun
    exact ⟨t₁, verified, now, ht₁, hrun⟩

/-- Where the storage rejects the session, the call fails and the kit is connected. -/
theorem connectWithCredentials_half_connected :
    ∃ t x s s', Program.Run (overStorage (connectWithCredentials sampleConnectionConfig (some "AQ")
        none none false)) t x ∧
      kitMemory.Threads s (History.answered t) s' ∧ ¬AllOrNothing s t x s' := by
  obtain ⟨t₁, verified, now, ht₁, hrun⟩ := sampleConnection_saves
  have hreaches : Program.Reaches _ (t₁ ++ commitExchanges verified now)
      (.saveSession (savedSession sampleConnectionConfig verified now)) := ⟨(), [], _, hrun⟩
  have hstorage : WalletRequest.isStorage
      (.saveSession (savedSession sampleConnectionConfig verified now)) = true := rfl
  have hfaulty := Program.run_withFaults_reject hreaches hstorage
    (JsError.plain "QuotaExceededError")
  have hclock : ∀ state, kitMemory.Threads state [⟨.dateNow, now⟩] state := fun state =>
    Memory.Threads.cons (Memory.Step.other rfl) (Memory.Threads.nil state)
  have hthreads := Memory.threads_append.mpr ⟨KitState.mk none none, kitMemory_threads ht₁,
    Memory.threads_append.mpr ⟨_, @kitMemory_announce _ verified (.ok ()), hclock _⟩⟩
  change kitMemory.Threads _ (t₁ ++ commitExchanges verified now) _ at hthreads
  rw [← answered_reject (t₁ ++ commitExchanges verified now) hstorage
    (JsError.plain "QuotaExceededError")] at hthreads
  exact ⟨_, _, _, _, hfaulty, hthreads,
    fun h => absurd (congrArg KitState.connected h.1) (Option.some_ne_none _)⟩

theorem connectWithCredentials_allOrNothing_iff_sample :
    ∃ t x s s', Program.Run (overStorage (connectWithCredentials sampleConnectionConfig (some "AQ")
        none none false)) t x ∧
      kitMemory.Threads s (History.answered t) s' ∧
      (AllOrNothing s t x s' ↔ ¬SaveSessionRejected t ∧ ¬ListenersThrew t) := by
  obtain ⟨t₁, verified, now, ht₁, hrun⟩ := sampleConnection_saves
  have hthreads := Memory.threads_append.mpr ⟨KitState.mk none none, kitMemory_threads ht₁,
    @kitMemory_commit _ sampleConnectionConfig verified now⟩
  rw [← List.append_assoc] at hthreads
  have hfaulty : Program.Run (overStorage _) _ _ := Program.run_withFaults_accept.mpr hrun
  rw [← @answered_map_accept _ JsError WalletRequest.isStorage
    (t₁ ++ commitExchanges verified now ++ _)] at hthreads
  exact ⟨_, _, _, _, hfaulty, hthreads, connectWithCredentials_allOrNothing_iff hfaulty hthreads⟩

end SmartAccountKit
