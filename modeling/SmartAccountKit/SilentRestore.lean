import SmartAccountKit.ConnectionFaults

/-!
# Restoring a session in silence

`connectWallet` first tries the stored session, without asking for the passkey.
A session that is over or refused is dropped; any other failure, also of a
listener, is passed on and leaves the session stored. Only then, and only if it may prompt, is the passkey
asked, once, and the connection uses what it answered.
-/

namespace SmartAccountKit
open Lib

/-! ## The parts of a run -/

/-- A request that asks the user for a passkey. -/
def WalletRequest.asksAuthenticator : WalletRequest → Bool
  | .createPasskey | .startAuthentication _ | .authenticateCredential _ => true
  | _ => false

/-- A request that was answered. -/
abbrev answered (r : WalletRequest) (reply : WalletReply r) : Exchange FaultyWallet :=
  Exchange.accept ⟨r, reply⟩

/-- A call of the storage that was rejected. -/
abbrev rejected (r : WalletRequest) (h : r.isStorage = true) (error : JsError) :
    Exchange FaultyWallet :=
  Exchange.reject r h error

/-- The exchanges that read a session and, if it can end, the clock. -/
def sessionChecked (session : StoredSession) (now : ℕ) : History FaultyWallet :=
  answered .getSession (some session) ::
    if session.hasExpiry then [answered .dateNow now] else []

/-- The event of a session that is over. -/
abbrev expiryEvent (session : StoredSession) : WalletRequest :=
  .emit (.sessionExpired session.contractId session.credentialId)

/-- The connection that a stored session asks for. -/
abbrev connectSession (config : ConnectionConfig) (session : StoredSession) :
    FaultyProgram ConnectWalletResult :=
  overStorage (connectWithCredentials config (some session.credentialId) (some session.contractId)
    none false)

/-- The connection with what the passkey answered to a challenge. -/
abbrev connectAnswer (config : ConnectionConfig) (response : FreshAssertion) (challenge : String) :
    FaultyProgram ConnectWalletResult :=
  overStorage (connectWithCredentials config (some response.id) none (some ⟨response, challenge⟩)
    true)

/-- What follows an attempt to connect from the session. -/
def settleAttempt (y : Except JsError ConnectWalletResult) :
    FaultyProgram (Option ConnectWalletResult) :=
  match y with
  | .ok result => return some result
  | .error error => if endsSession error then dropSession overStorage else Program.throw error

/-- After an attempt the call ends, or it goes on to the prompt. -/
def EndsOrPrompts (config : ConnectionConfig) (options : ConnectWalletOptions)
    (y : Except JsError (Option ConnectWalletResult)) (t₂ : History FaultyWallet)
    (x : Except JsError (Option ConnectWalletResult)) : Prop :=
  t₂ = [] ∧ x = y ∧ (y = .ok none → options.prompt = false ∧ options.fresh = false) ∨
    y = .ok none ∧ (options.prompt = true ∨ options.fresh = true) ∧
      Program.Run (connectPrompted overStorage config) t₂ x

/-! ## Runs of the parts -/

section runs

variable {config : ConnectionConfig} {options : ConnectWalletOptions} {session : StoredSession}
  {t : History FaultyWallet} {x : Except JsError (Option ConnectWalletResult)}

/-- A session without an end never ends. -/
theorem StoredSession.expiredAt_of_not_hasExpiry (h : session.hasExpiry = false) (now : ℕ) :
    session.expiredAt now = false := by
  unfold StoredSession.hasExpiry at h
  unfold StoredSession.expiredAt
  cases hexpires : session.expiresAt with
  | none => rfl
  | some expiresAt =>
    have htruthy : expiresAt.truthy = false := by
      rw [hexpires] at h
      exact h
    show (expiresAt.truthy && expiresAt.lt (.ofNat now)) = false
    rw [htruthy, Bool.false_and]

/-- A call that is no storage call is answered. -/
theorem run_overStorage_await {α : Type} {r : WalletRequest} {read : WalletReply r → Except JsError α}
    {y : Except JsError α} (hr : r.isStorage = false)
    (hrun : Program.Run (overStorage (Program.await r read)) t y) :
    ∃ reply, t = [answered r reply] ∧ y = read reply := by
  rcases Program.run_withFaults_await.mp hrun with h | ⟨hstorage, _⟩
  · exact h
  · rw [hr] at hstorage
    exact nomatch hstorage

theorem run_dropSession (hrun : Program.Run (dropSession overStorage) t x) :
    (t = [answered .clearSession ()] ∧ x = .ok none) ∨
      ∃ error, t = [rejected .clearSession rfl error] ∧ x = .error error := by
  rcases Program.run_bind.mp hrun with ⟨error, hfail, rfl⟩ | ⟨_, t₁, t₂, rfl, hclear, hdone⟩
  · rcases Program.run_withFaults_await.mp hfail with ⟨_, -, h⟩ | ⟨_, error', rfl, h⟩
    · exact nomatch h
    · rw [Except.error.inj h]
      exact Or.inr ⟨error', rfl, rfl⟩
  · obtain ⟨rfl, rfl⟩ := Program.run_pure.mp hdone
    rcases Program.run_withFaults_await.mp hclear with ⟨_, rfl, -⟩ | ⟨_, _, -, h⟩
    · exact Or.inl ⟨rfl, rfl⟩
    · exact nomatch h

/-- A session that is over is dropped unless telling the listeners throws. -/
theorem run_dropExpired (hrun : Program.Run (dropExpired overStorage session) t x) :
    (∃ error, t = [answered (expiryEvent session) (.error error)] ∧ x = .error error) ∨
      ∃ t₁, t = answered (expiryEvent session) (.ok ()) :: t₁ ∧
        Program.Run (dropSession overStorage) t₁ x := by
  rcases Program.run_bind.mp hrun with ⟨error, hfail, rfl⟩ | ⟨_, t₁, t₂, rfl, htell, hdrop⟩
  · obtain ⟨told, rfl, htold⟩ := run_overStorage_await rfl hfail
    obtain rfl : told = .error error := htold.symm
    exact Or.inl ⟨error, rfl, rfl⟩
  · obtain ⟨told, rfl, htold⟩ := run_overStorage_await rfl htell
    obtain rfl : told = .ok () := htold.symm
    exact Or.inr ⟨t₂, rfl, hdrop⟩

/-- Whether a session is over is read off the clock. -/
theorem run_sessionExpired {y : Except JsError Bool}
    (hrun : Program.Run (sessionExpired overStorage session) t y) :
    ∃ now, answered .getSession (some session) :: t = sessionChecked session now ∧
      y = .ok (session.expiredAt now) := by
  unfold sessionExpired at hrun
  unfold sessionChecked
  by_cases hexpiry : session.hasExpiry = true
  · rw [if_pos hexpiry] at hrun
    rcases Program.run_bind.mp hrun with ⟨error, hfail, -⟩ | ⟨now, t₁, t₂, rfl, hclock, hdone⟩
    · obtain ⟨_, -, h⟩ := run_overStorage_await rfl hfail
      exact nomatch h
    · obtain ⟨rfl, rfl⟩ := Program.run_pure.mp hdone
      obtain ⟨now', rfl, h⟩ := run_overStorage_await rfl hclock
      rw [Except.ok.inj h]
      refine ⟨now', ?_, rfl⟩
      rw [if_pos hexpiry]
      rfl
  · rw [if_neg hexpiry] at hrun
    obtain ⟨rfl, rfl⟩ := Program.run_pure.mp hrun
    have hnone : session.hasExpiry = false := Bool.eq_false_iff.mpr hexpiry
    refine ⟨0, ?_, ?_⟩
    · rw [if_neg hexpiry]
    · rw [StoredSession.expiredAt_of_not_hasExpiry hnone]

/-- How an attempt to restore the session goes. -/
theorem run_restoreSession (hrun : Program.Run (restoreSession overStorage config) t x) :
    (∃ error, t = [rejected .getSession rfl error] ∧ x = .error error) ∨
    (t = [answered .getSession none] ∧ x = .ok none) ∨
    ∃ session now rest, t = sessionChecked session now ++ rest ∧
      (session.expiredAt now = true ∧ Program.Run (dropExpired overStorage session) rest x ∨
        session.expiredAt now = false ∧ ∃ t₁ y t₂, rest = t₁ ++ t₂ ∧
          Program.Run (connectSession config session) t₁ y ∧
          Program.Run (settleAttempt y) t₂ x) := by
  rcases Program.run_bind.mp hrun with ⟨error, hfail, rfl⟩ | ⟨found, t₁, t₂, rfl, hread, hnext⟩
  · rcases Program.run_withFaults_await.mp hfail with ⟨_, -, h⟩ | ⟨_, error', rfl, h⟩
    · exact nomatch h
    · rw [Except.error.inj h]
      exact Or.inl ⟨error', rfl, rfl⟩
  · rcases Program.run_withFaults_await.mp hread with ⟨reply, rfl, h⟩ | ⟨_, _, -, h⟩
    swap
    · exact nomatch h
    obtain rfl := Except.ok.inj h
    cases found with
    | none =>
      obtain ⟨rfl, rfl⟩ := Program.run_pure.mp hnext
      exact Or.inr (Or.inl ⟨rfl, rfl⟩)
    | some session =>
      rcases Program.run_bind.mp hnext with ⟨error, hfail, -⟩ | ⟨ended, t₃, t₄, rfl, hclock, hrest⟩
      · obtain ⟨_, -, h⟩ := run_sessionExpired hfail
        exact nomatch h
      obtain ⟨now, hchecked, h⟩ := run_sessionExpired hclock
      rw [Except.ok.inj h] at hrest
      refine Or.inr (Or.inr ⟨session, now, t₄, ?_, ?_⟩)
      · rw [← hchecked]
        rfl
      · by_cases hexpired : session.expiredAt now = true
        · rw [if_pos hexpired] at hrest
          exact Or.inl ⟨hexpired, hrest⟩
        · rw [if_neg hexpired] at hrest
          refine Or.inr ⟨Bool.eq_false_iff.mpr hexpired, ?_⟩
          -- an attempt itself cannot fail
          rcases Program.run_bind.mp hrest with ⟨error, hfail, -⟩ | ⟨y, t₅, t₆, rfl, htry, hsettle⟩
          · obtain ⟨_, -, h⟩ := Program.run_attempt.mp hfail
            exact nomatch h
          · obtain ⟨y', hconnect, h⟩ := Program.run_attempt.mp htry
            rw [← Except.ok.inj h] at hconnect
            refine ⟨t₅, y, t₆, rfl, hconnect, ?_⟩
            cases y <;> exact hsettle

/-- How the passkey is asked. -/
theorem run_connectPrompted (hrun : Program.Run (connectPrompted overStorage config) t x) :
    ∃ challenge,
      (∃ error, t = [answered .generateChallenge challenge,
          answered (.startAuthentication challenge) (.error error)] ∧ x = .error error) ∨
      ∃ response t₁ y, t = answered .generateChallenge challenge ::
          answered (.startAuthentication challenge) (.ok response) :: t₁ ∧
        Program.Run (connectAnswer config response challenge) t₁ y ∧ x = y.map some := by
  rcases Program.run_bind.mp hrun with ⟨error, hfail, -⟩ | ⟨challenge, t₁, t₂, rfl, hnew, hnext⟩
  · obtain ⟨_, -, h⟩ := run_overStorage_await rfl hfail
    exact nomatch h
  obtain ⟨challenge', rfl, h⟩ := run_overStorage_await rfl hnew
  obtain rfl := Except.ok.inj h
  refine ⟨challenge, ?_⟩
  rcases Program.run_bind.mp hnext with ⟨error, hfail, rfl⟩ | ⟨response, t₃, t₄, rfl, hask, hrest⟩
  · obtain ⟨reply, rfl, rfl⟩ := run_overStorage_await rfl hfail
    exact Or.inl ⟨error, rfl, rfl⟩
  obtain ⟨reply, rfl, rfl⟩ := run_overStorage_await rfl hask
  rcases Program.run_bind.mp hrest with ⟨error, hfail, rfl⟩ | ⟨result, t₅, t₆, rfl, hconnect, hdone⟩
  · exact Or.inr ⟨response, t₄, .error error, rfl, hfail, rfl⟩
  · obtain ⟨rfl, rfl⟩ := Program.run_pure.mp hdone
    rw [List.append_nil]
    exact Or.inr ⟨response, t₅, .ok result, rfl, hconnect, rfl⟩

/-- A run of `connectWallet` without ids: what becomes of the session, and the prompt if nothing
came of it. -/
theorem run_connectWallet (hcredential : nonEmptyText options.credentialId = none)
    (hcontract : nonEmptyText options.contractId = none)
    (hrun : Program.Run (connectWalletOver overStorage config options) t x) :
    ∃ t₁ y t₂, t = t₁ ++ t₂ ∧
      Program.Run (restoreUnlessFresh overStorage config options) t₁ y ∧
      EndsOrPrompts config options y t₂ x := by
  have hids : ¬((nonEmptyText options.credentialId).isSome ∨
      (nonEmptyText options.contractId).isSome) := by
    rw [hcredential, hcontract]
    exact fun h => h.elim nofun nofun
  rw [connectWalletOver, if_neg hids] at hrun
  rcases Program.run_bind.mp hrun with ⟨error, hfail, rfl⟩ | ⟨found, t₁, t₂, rfl, hrestore, hnext⟩
  · exact ⟨t, .error error, [], (List.append_nil t).symm, hfail, Or.inl ⟨rfl, rfl, nofun⟩⟩
  · refine ⟨t₁, .ok found, t₂, rfl, hrestore, ?_⟩
    cases found with
    | some result =>
      obtain ⟨rfl, rfl⟩ := Program.run_pure.mp hnext
      exact Or.inl ⟨rfl, rfl, nofun⟩
    | none =>
      dsimp only at hnext
      by_cases hasks : options.prompt = true ∨ options.fresh = true
      · rw [if_pos hasks] at hnext
        exact Or.inr ⟨rfl, hasks, hnext⟩
      · rw [if_neg hasks] at hnext
        obtain ⟨rfl, rfl⟩ := Program.run_pure.mp hnext
        rw [not_or, Bool.not_eq_true, Bool.not_eq_true] at hasks
        exact Or.inl ⟨rfl, rfl, fun _ => hasks⟩

end runs

/-! ## Silence -/

/-- A program that does not ask for a passkey. -/
def Silent {α : Type} (p : WalletProgram α) : Prop :=
  Program.Exchanges (fun r : WalletRequest => r.asksAuthenticator = false) (fun _ => True) p

/-- A program over a storage that may fail, which does not ask for a passkey. -/
def SilentOver {α : Type} (p : FaultyProgram α) : Prop :=
  Program.Exchanges (I := FaultyWallet) (fun r : WalletRequest => r.asksAuthenticator = false)
    (fun _ => True) p

theorem Silent.overStorage {α : Type} {p : WalletProgram α} (hp : Silent p) :
    SilentOver (overStorage p) :=
  Program.Exchanges.withFaults hp

theorem OnlyChecks.silent {α : Type} {p : WalletProgram α} (hp : OnlyChecks p) : Silent p := by
  refine Program.Exchanges.mono hp fun r hr => ?_
  cases r <;> first | rfl | exact nomatch hr

section silence

variable {config : ConnectionConfig} {credential : Option StoredCredential}
  {credentialId contractId : String} {proof : Option FreshOwnershipProof}
  {allowAuthentication : Bool}

/-- With a proof, or without leave to ask for one, ownership is checked in silence. -/
theorem requireOwnership_silent {publicKey : Bytes}
    (hproof : proof.isSome = true ∨ allowAuthentication = false) :
    Silent (requireOwnership config credential credentialId contractId publicKey proof
      allowAuthentication) := by
  have hfound : ownershipProof config credentialId proof allowAuthentication = return proof := by
    unfold ownershipProof
    cases proof with
    | some proof => rfl
    | none =>
      have hleave : allowAuthentication = false := hproof.resolve_left nofun
      show (if allowAuthentication = true ∧ _ then _ else _) = _
      rw [if_neg (by rw [hleave]; exact fun h => nomatch h.1)]
  unfold requireOwnership requireFreshOwnership
  split
  · exact Program.exchanges_done
  · rw [hfound]
    refine Program.exchanges_bind Program.exchanges_done fun found _ _ => ?_
    split
    · refine Program.exchanges_bind (verifyFreshAssertion_onlyChecks _ _).silent fun result _ _ => ?_
      cases result <;> exact Program.exchanges_done
    · exact Program.exchanges_done

theorem saveConnection_silent {verified : StoredCredential} :
    Silent (saveConnection config verified) :=
  saveConnection_requests rfl rfl rfl rfl fun _ => rfl

theorem connectWithCredentials_silent {credentialId contractId : Option String}
    (hproof : proof.isSome = true ∨ allowAuthentication = false) :
    Silent (connectWithCredentials config credentialId contractId proof allowAuthentication) := by
  unfold connectWithCredentials
  split
  · exact Program.exchanges_done
  refine Program.exchanges_bind (Program.exchanges_await rfl fun _ _ => trivial) fun _ _ _ => ?_
  refine Program.exchanges_ofExcept_bind fun _ _ => ?_
  -- the checks of the contract, in their order
  refine Program.exchanges_bind (readInstance_requests rfl rfl) fun _ _ _ => ?_
  refine Program.exchanges_ofExcept_bind fun _ _ => ?_
  refine Program.exchanges_bind (selectBirthCandidate_requests _ _ _ _ _ rfl rfl) fun _ _ _ => ?_
  refine Program.exchanges_bind (requireVerifiedBirth_onlyChecks _ _ _ _ _).silent fun _ _ _ => ?_
  refine Program.exchanges_ofExcept_bind fun _ _ => ?_
  refine Program.exchanges_bind (requireLiveSigner_onlyChecks _ _ _ _ _).silent fun _ _ _ => ?_
  refine Program.exchanges_bind (requireOwnership_silent hproof) fun _ _ _ => ?_
  exact saveConnection_silent

theorem dropSession_silent : SilentOver (dropSession overStorage) :=
  Program.exchanges_bind (Silent.overStorage (Program.exchanges_await rfl fun _ _ => trivial))
    fun _ _ _ => Program.exchanges_done

theorem dropExpired_silent {session : StoredSession} :
    SilentOver (dropExpired overStorage session) :=
  Program.exchanges_bind (Silent.overStorage (Program.exchanges_await rfl fun _ _ => trivial))
    fun _ _ _ => dropSession_silent

/-- The session is tried in silence. -/
theorem restoreUnlessFresh_silent {options : ConnectWalletOptions} :
    SilentOver (restoreUnlessFresh overStorage config options) := by
  unfold restoreUnlessFresh
  split
  · exact Program.exchanges_done
  refine Program.exchanges_bind
    (Silent.overStorage (Program.exchanges_await rfl fun _ _ => trivial)) fun found _ _ => ?_
  cases found with
  | none => exact Program.exchanges_done
  | some session =>
    refine Program.exchanges_bind ?_ fun expired _ _ => ?_
    · unfold sessionExpired
      split
      · exact Program.exchanges_bind
          (Silent.overStorage (Program.exchanges_await rfl fun _ _ => trivial))
          fun _ _ _ => Program.exchanges_done
      · exact Program.exchanges_done
    · split
      · exact dropExpired_silent
      · refine Program.exchanges_bind (Program.exchanges_attempt
          (connectWithCredentials_silent (Or.inr rfl)).overStorage) fun y _ _ => ?_
        cases y with
        | ok result => exact Program.exchanges_done
        | error error =>
          show SilentOver (if endsSession error = true then _ else _)
          split
          · exact dropSession_silent
          · exact Program.exchanges_done

end silence

/-! ## The stored session -/

/-- A request that changes the stored session. -/
def WalletRequest.touchesSession : WalletRequest → Bool
  | .saveSession _ | .clearSession => true
  | _ => false

/-- Other requests leave the session stored. -/
theorem walletMemory_session {s s' : WalletStorage} {t : History WalletEnvironment}
    (hthreads : walletMemory.Threads s t s')
    (h : ∀ e ∈ t, WalletRequest.touchesSession e.request = false) : s'.session = s.session := by
  have hkeeps : walletMemory.Keeps (fun r : WalletRequest => r.touchesSession = false)
      fun state => state.session = s.session := by
    intro r state reply state' hr hserve hstate
    cases r with
    | saveSession | clearSession => exact nomatch hr
    | getCredential | getAllCredentials | saveCredential | updateCredential | deleteCredential
    | getSession =>
      rw [← (Prod.mk.inj (Option.some.inj hserve)).2]
      exact hstate
    | _ => exact nomatch hserve
  exact hkeeps.threads hthreads h rfl

theorem answered_sessionChecked (session : StoredSession) (now : ℕ) :
    ∀ e ∈ (sessionChecked session now).answered,
      WalletRequest.touchesSession e.request = false := by
  unfold sessionChecked
  split
  · intro e he
    rcases List.mem_cons.mp he with rfl | he
    · rfl
    · rw [List.mem_singleton.mp he]
      rfl
  · intro e he
    rw [List.mem_singleton.mp he]
    rfl

/-- A connection that fails leaves the session stored. -/
theorem connectSession_keeps {config : ConnectionConfig} {session : StoredSession}
    {t : History FaultyWallet} {error : JsError}
    (hrun : Program.Run (connectSession config session) t (.error error)) :
    ∀ e ∈ t.answered, WalletRequest.touchesSession e.request = false := by
  have hquiet : ∀ {u : History WalletEnvironment},
      (∀ e ∈ u, WalletRequest.touchesConnection e.request = false) →
      ∀ e ∈ u, WalletRequest.touchesSession e.request = false := by
    intro u hu e he
    have hkeeps := hu e he
    generalize e.request = r at hkeeps
    cases r <;> first | rfl | exact absurd hkeeps.symm Bool.false_ne_true
  rcases (connectWithCredentials_commitsLast config _ _ _ _).run hrun with
    ⟨-, -, ht⟩ | ⟨t₁, t₂, verified, ht, ht₁, ⟨-, h, -⟩ | ⟨-, -, reply, last, rfl, hlast⟩⟩
  · exact hquiet ht
  · exact nomatch h
  · have hannounce : ∀ e ∈ announceExchanges verified reply,
        WalletRequest.touchesSession e.request = false := by
      simp [announceExchanges, WalletRequest.touchesSession]
    rw [ht, List.forall_mem_append, List.forall_mem_append]
    exact ⟨hquiet ht₁, hannounce, hquiet hlast⟩

/-- What was read and checked at the beginning of a history is determined by it. -/
theorem sessionChecked_append_inj {session session' : StoredSession} {now now' : ℕ}
    {t t' : History FaultyWallet}
    (h : sessionChecked session now ++ t = sessionChecked session' now' ++ t') :
    session = session' ∧ session.expiredAt now = session.expiredAt now' ∧ t = t' := by
  unfold sessionChecked at h
  rw [List.cons_append, List.cons_append, List.cons.injEq] at h
  obtain ⟨hread, hrest⟩ := h
  have hread' := Option.some.inj (congrArg Exchange.answered? hread)
  cases hread'
  refine ⟨rfl, ?_⟩
  by_cases hexpiry : session.hasExpiry = true
  · rw [if_pos hexpiry, if_pos hexpiry, List.cons_append, List.cons_append,
      List.cons.injEq] at hrest
    have hclock := Option.some.inj (congrArg Exchange.answered? hrest.1)
    cases hclock
    exact ⟨rfl, hrest.2⟩
  · rw [if_neg hexpiry, if_neg hexpiry] at hrest
    have hnone : session.hasExpiry = false := Bool.eq_false_iff.mpr hexpiry
    rw [StoredSession.expiredAt_of_not_hasExpiry hnone,
      StoredSession.expiredAt_of_not_hasExpiry hnone]
    exact ⟨rfl, hrest⟩

/-! ## What a run does with the session and the passkey -/

/-- The stored session is dropped next, and without a prompt the call comes to nothing. A storage
that rejects this ends the call with its error and keeps the session. -/
def DropsSession (options : ConnectWalletOptions) (s : WalletStorage) (rest : History FaultyWallet)
    (x : Except JsError (Option ConnectWalletResult)) (s' : WalletStorage) : Prop :=
  (∃ after, rest = answered .clearSession () :: after ∧
    (options.prompt = false → after = [] ∧ x = .ok none ∧ s'.session = none)) ∨
  ∃ error, rest = [rejected .clearSession rfl error] ∧ x = .error error ∧ s'.session = s.session

/-- The listeners are told that the session is over, and it is dropped. If telling them throws, the
call ends with that error and keeps the session. -/
def ExpiresSession (options : ConnectWalletOptions) (session : StoredSession) (s : WalletStorage)
    (rest : History FaultyWallet) (x : Except JsError (Option ConnectWalletResult))
    (s' : WalletStorage) : Prop :=
  (∃ rest', rest = answered (expiryEvent session) (.ok ()) :: rest' ∧
    DropsSession options s rest' x s') ∨
  ∃ error, rest = [answered (expiryEvent session) (.error error)] ∧ x = .error error ∧
    s'.session = s.session

/-- The passkey is asked after the attempt with the session has ended without a connection. The
connection uses the credential that it answers and the challenge that it was given. -/
def AskedLast (config : ConnectionConfig) (options : ConnectWalletOptions)
    (before : History FaultyWallet) (e : Exchange FaultyWallet) (after : History FaultyWallet)
    (x : Except JsError (Option ConnectWalletResult)) : Prop :=
  (options.prompt = true ∨ options.fresh = true) ∧
  ∃ attempt challenge, before = attempt ++ [answered .generateChallenge challenge] ∧
    Program.Run (restoreUnlessFresh overStorage config options) attempt (.ok none) ∧
    (¬CommitBroken attempt →
      ∀ e' ∈ attempt, WalletRequest.connection? e'.request = none) ∧
    ((∃ error, e = answered (.startAuthentication challenge) (.error error) ∧ after = [] ∧
        x = .error error) ∨
      ∃ response y, e = answered (.startAuthentication challenge) (.ok response) ∧
        Program.Run (connectAnswer config response challenge) after y ∧ x = y.map some ∧
        ∀ e' ∈ after, WalletRequest.asksAuthenticator e'.request = false)

/-- What a call without ids does with the stored session and the passkey. -/
structure RestoresSilently (config : ConnectionConfig) (options : ConnectWalletOptions)
    (s : WalletStorage) (t : History FaultyWallet)
    (x : Except JsError (Option ConnectWalletResult)) (s' : WalletStorage) : Prop where
  /-- Without a prompt the passkey is never asked. -/
  silent : options.prompt = false → options.fresh = false →
    ∀ e ∈ t, WalletRequest.asksAuthenticator e.request = false
  /-- The call begins with the stored session, unless it is to be fresh. -/
  begins : options.fresh = false →
    (∃ error, t = [rejected .getSession rfl error] ∧ x = .error error) ∨
    (∃ rest, t = answered .getSession none :: rest ∧ s.session = none) ∨
    ∃ session now rest, t = sessionChecked session now ++ rest ∧ s.session = some session
  /-- A session that is over is dropped. -/
  expired : options.fresh = false → ∀ session now rest, t = sessionChecked session now ++ rest →
    session.expiredAt now = true → ExpiresSession options session s rest x s'
  /-- So is one whose wallet does not pass the checks. -/
  refused : options.fresh = false → ∀ session now t₁ error rest,
    t = sessionChecked session now ++ (t₁ ++ rest) → session.expiredAt now = false →
    Program.Run (connectSession config session) t₁ (.error error) → endsSession error = true →
    DropsSession options s rest x s'
  /-- Any other error is passed on, and the session stays. -/
  rethrown : options.fresh = false → ∀ session now t₁ error rest,
    t = sessionChecked session now ++ (t₁ ++ rest) → session.expiredAt now = false →
    Program.Run (connectSession config session) t₁ (.error error) → endsSession error = false →
    rest = [] ∧ x = .error error ∧ s'.session = s.session
  /-- What connects before the passkey is asked is a session that is not over. -/
  connects : ∀ before e after target, t = before ++ e :: after →
    WalletRequest.connection? e.request = some target →
    (∀ e' ∈ before, WalletRequest.asksAuthenticator e'.request = false) →
    options.fresh = false ∧ ∃ session now rest, s.session = some session ∧
      before = sessionChecked session now ++ rest ∧ session.expiredAt now = false
  /-- The passkey is asked last. -/
  prompted : ∀ before e after, t = before ++ e :: after →
    WalletRequest.asksAuthenticator e.request = true → AskedLast config options before e after x

section restores

variable {config : ConnectionConfig} {options : ConnectWalletOptions} {session : StoredSession}
  {s s' : WalletStorage} {t t₁ t₂ before after : History FaultyWallet} {e : Exchange FaultyWallet}
  {x y : Except JsError (Option ConnectWalletResult)}

theorem EndsOrPrompts.of_ne (h : EndsOrPrompts config options y t₂ x) (hy : y ≠ .ok none) :
    t₂ = [] ∧ x = y :=
  h.elim (fun h => ⟨h.1, h.2.1⟩) fun h => absurd h.1 hy

theorem EndsOrPrompts.of_silent (h : EndsOrPrompts config options y t₂ x)
    (hprompt : options.prompt = false) (hfresh : options.fresh = false) : t₂ = [] ∧ x = y := by
  refine h.elim (fun h => ⟨h.1, h.2.1⟩) fun h => ?_
  rw [hprompt, hfresh] at h
  exact (h.2.1.elim nofun nofun)

/-- The session that was read is the stored one. -/
theorem stored_of_checked {now : ℕ}
    (hthreads : walletMemory.Threads s (sessionChecked session now ++ t).answered s') :
    s.session = some session := by
  have hthreads' : walletMemory.Threads s
      (⟨.getSession, some session⟩ :: History.answered (_ ++ t)) s' := hthreads
  obtain ⟨s₁, hstep, -⟩ := Memory.threads_cons.mp hthreads'
  exact (hstep.served_inv rfl).1.symm

/-- Dropping the session ends the attempt, or the call. -/
theorem drops_of_run {checked : History FaultyWallet} (hfresh : options.fresh = false)
    (hdrop : Program.Run (dropSession overStorage) t₁ y)
    (hrest : EndsOrPrompts config options y t₂ x)
    (hchecked : ∀ e ∈ checked.answered, WalletRequest.touchesSession e.request = false)
    (hthreads : walletMemory.Threads s (checked ++ (t₁ ++ t₂)).answered s') :
    DropsSession options s (t₁ ++ t₂) x s' := by
  rcases run_dropSession hdrop with ⟨rfl, rfl⟩ | ⟨error, rfl, rfl⟩
  · refine Or.inl ⟨t₂, rfl, fun hprompt => ?_⟩
    obtain ⟨rfl, rfl⟩ := hrest.of_silent hprompt hfresh
    refine ⟨rfl, rfl, ?_⟩
    rw [answered_append] at hthreads
    obtain ⟨s₁, -, hclear⟩ := Memory.threads_append.mp hthreads
    have hclear' : walletMemory.Threads s₁ [⟨.clearSession, ()⟩] s' := hclear
    obtain ⟨s₂, hstep, hlast⟩ := Memory.threads_cons.mp hclear'
    rw [Memory.threads_nil.mp hlast, (hstep.served_inv rfl).2]
  · obtain ⟨rfl, rfl⟩ := hrest.of_ne nofun
    refine Or.inr ⟨error, rfl, rfl, walletMemory_session hthreads ?_⟩
    rw [answered_append, List.forall_mem_append]
    exact ⟨hchecked, List.forall_mem_nil _⟩

/-- A session that is over ends the attempt, or the call. -/
theorem expires_of_run {now : ℕ} (hfresh : options.fresh = false)
    (hdrop : Program.Run (dropExpired overStorage session) t₁ y)
    (hrest : EndsOrPrompts config options y t₂ x)
    (hthreads : walletMemory.Threads s (sessionChecked session now ++ (t₁ ++ t₂)).answered s') :
    ExpiresSession options session s (t₁ ++ t₂) x s' := by
  have hchecked := answered_sessionChecked session now
  rcases run_dropExpired hdrop with ⟨error, rfl, rfl⟩ | ⟨t₃, rfl, hclear⟩
  · obtain ⟨rfl, rfl⟩ := hrest.of_ne nofun
    refine Or.inr ⟨error, rfl, rfl, walletMemory_session hthreads ?_⟩
    rw [answered_append, List.forall_mem_append]
    refine ⟨hchecked, fun e he => ?_⟩
    rw [List.mem_singleton.mp he]
    rfl
  · have hbefore : ∀ e ∈ (sessionChecked session now ++
        [answered (expiryEvent session) (.ok ())]).answered,
        WalletRequest.touchesSession e.request = false := by
      rw [answered_append, List.forall_mem_append]
      refine ⟨hchecked, fun e he => ?_⟩
      rw [List.mem_singleton.mp he]
      rfl
    refine Or.inl ⟨t₃ ++ t₂, rfl, drops_of_run hfresh hclear hrest hbefore ?_⟩
    rw [List.append_assoc]
    exact hthreads

/-- An attempt that begins with a session it read. -/
theorem restoreSession_checked {now : ℕ} {rest : History FaultyWallet}
    (hrun : Program.Run (restoreSession overStorage config) t₁ y)
    (ht : t₁ ++ t₂ = sessionChecked session now ++ rest) :
    ∃ rest₁, rest = rest₁ ++ t₂ ∧
      (session.expiredAt now = true ∧ Program.Run (dropExpired overStorage session) rest₁ y ∨
        session.expiredAt now = false ∧ ∃ u₁ z u₂, rest₁ = u₁ ++ u₂ ∧
          Program.Run (connectSession config session) u₁ z ∧
          Program.Run (settleAttempt z) u₂ y) := by
  rcases run_restoreSession hrun with
    ⟨error, rfl, -⟩ | ⟨rfl, -⟩ | ⟨session', now', rest₁, rfl, hattempt⟩
  · have hread := congrArg Exchange.answered? (List.cons.inj ht).1
    exact nomatch hread
  · have hread := Option.some.inj (congrArg Exchange.answered? (List.cons.inj ht).1)
    cases hread
  · rw [List.append_assoc] at ht
    obtain ⟨rfl, hexpired, rfl⟩ := sessionChecked_append_inj ht
    rw [← hexpired]
    exact ⟨rest₁, rfl, hattempt⟩

/-- An attempt to connect in which a connection was made connects, or it breaks in its last part. -/
theorem connectSession_unconnected {error : JsError}
    (hrun : Program.Run (connectSession config session) t (.error error))
    (hsound : ¬CommitBroken t) (he : e ∈ t) :
    WalletRequest.connection? e.request = none := by
  have hanswered : ∀ e' ∈ t.answered, WalletRequest.touchesConnection e'.request = false := by
    rcases (connectWithCredentials_commitsLast config _ _ _ _).run hrun with
      ⟨-, -, ht⟩ | ⟨_, _, _, _, _, ⟨-, h, -⟩ | ⟨hbroken, -⟩⟩
    · exact ht
    · cases h
    · exact absurd hbroken hsound
  cases htarget : WalletRequest.connection? e.request with
  | none => rfl
  | some target =>
    have htouches := WalletRequest.touchesConnection_of_connection htarget
    by_cases hrejected : e.Rejected
    · -- only the storage rejects, and of its calls only `saveSession` makes a connection
      have hstorage : WalletRequest.isStorage e.request = true :=
        Exchange.fallible_of_rejected hrejected
      refine absurd (Or.inl ⟨e, he, hrejected, ?_⟩) hsound
      generalize e.request = r at hstorage htarget
      cases r with
      | saveSession saved => exact ⟨saved, rfl⟩
      | setConnectedState | emit => exact absurd hstorage Bool.false_ne_true
      | _ => cases htarget
    · obtain ⟨e₀, rfl⟩ := Exchange.eq_accept hrejected
      have hkeeps := hanswered e₀ (List.mem_filterMap.mpr ⟨_, he, rfl⟩)
      have hsame : WalletRequest.touchesConnection e₀.request = true := htouches
      rw [hsame] at hkeeps
      cases hkeeps

theorem connection_of_sessionChecked {now : ℕ} (he : e ∈ sessionChecked session now) :
    WalletRequest.connection? e.request = none := by
  unfold sessionChecked at he
  rcases List.mem_cons.mp he with rfl | he
  · rfl
  · split at he
    · rw [List.mem_singleton.mp he]
      rfl
    · exact absurd he List.not_mem_nil

theorem connection_of_dropSession (hrun : Program.Run (dropSession overStorage) t x) (he : e ∈ t) :
    WalletRequest.connection? e.request = none := by
  rcases run_dropSession hrun with ⟨rfl, -⟩ | ⟨error, rfl, -⟩ <;>
    rw [List.mem_singleton.mp he] <;> rfl

theorem connection_of_dropExpired (hrun : Program.Run (dropExpired overStorage session) t x)
    (he : e ∈ t) : WalletRequest.connection? e.request = none := by
  rcases run_dropExpired hrun with ⟨error, rfl, -⟩ | ⟨t₁, rfl, hdrop⟩
  · rw [List.mem_singleton.mp he]
    rfl
  · rcases List.mem_cons.mp he with rfl | he
    · rfl
    · exact connection_of_dropSession hdrop he

/-- Where nothing came of the session, no connection was made. -/
theorem restoreSession_unconnected
    (hrun : Program.Run (restoreSession overStorage config) t (.ok none))
    (hsound : ¬CommitBroken t) (he : e ∈ t) :
    WalletRequest.connection? e.request = none := by
  rcases run_restoreSession hrun with ⟨_, -, h⟩ | ⟨rfl, -⟩ | ⟨session, now, rest, rfl, hattempt⟩
  · exact nomatch h
  · rw [List.mem_singleton.mp he]
    rfl
  · rcases List.mem_append.mp he with he | he
    · exact connection_of_sessionChecked he
    rcases hattempt with ⟨-, hdrop⟩ | ⟨-, u₁, z, u₂, rfl, hconnect, hsettle⟩
    · exact connection_of_dropExpired hdrop he
    · cases z with
      | ok result => exact nomatch (Program.run_pure.mp hsettle).2
      | error error =>
        rcases List.mem_append.mp he with he | he
        · refine connectSession_unconnected hconnect (fun hbroken => hsound ?_) he
          exact hbroken.mono fun e' he' => List.mem_append_right _ (List.mem_append_left _ he')
        · change Program.Run (if endsSession error = true then _ else _) u₂ _ at hsettle
          split at hsettle
          · exact connection_of_dropSession hsettle he
          · exact nomatch (Program.run_throw.mp hsettle).2

theorem restoreUnlessFresh_of_not_fresh (hfresh : options.fresh = false) :
    restoreUnlessFresh overStorage config options = restoreSession overStorage config := by
  rw [restoreUnlessFresh, if_neg (by rw [hfresh]; exact nofun)]

/-- An attempt that failed: the session is dropped, or the error is passed on. -/
theorem settled_of_error {checked rest : History FaultyWallet} {error : JsError} {now : ℕ}
    (hfresh : options.fresh = false) (hchecked : checked = sessionChecked session now)
    (hexpired : session.expiredAt now = false)
    (hrestore : Program.Run (restoreSession overStorage config) t₁ y)
    (hrest : EndsOrPrompts config options y t₂ x)
    (hthreads : walletMemory.Threads s (t₁ ++ t₂).answered s')
    (ht : t₁ ++ t₂ = checked ++ (t ++ rest))
    (hconnect : Program.Run (connectSession config session) t (.error error)) :
    (endsSession error = true → DropsSession options s rest x s') ∧
      (endsSession error = false → rest = [] ∧ x = .error error ∧ s'.session = s.session) := by
  subst hchecked
  obtain ⟨rest₁, hrest₁, ⟨hover, -⟩ | ⟨-, u₁, z, u₂, rfl, hrun, hsettle⟩⟩ :=
    restoreSession_checked hrestore ht
  · rw [hexpired] at hover
    exact nomatch hover
  -- the attempt in the run is the one that is given
  rw [List.append_assoc] at hrest₁
  obtain ⟨rfl, rfl, rfl⟩ := Program.Run.eq_of_append hconnect hrun hrest₁
  have hkeeps : ∀ e ∈ (sessionChecked session now ++ t).answered,
      WalletRequest.touchesSession e.request = false := by
    rw [answered_append, List.forall_mem_append]
    exact ⟨answered_sessionChecked session now, connectSession_keeps hconnect⟩
  rw [ht, ← List.append_assoc] at hthreads
  change Program.Run (if endsSession error = true then _ else _) u₂ y at hsettle
  constructor
  · intro hends
    rw [if_pos hends] at hsettle
    exact drops_of_run hfresh hsettle hrest hkeeps hthreads
  · intro hpasses
    rw [if_neg (by rw [hpasses]; exact nofun)] at hsettle
    obtain ⟨rfl, rfl⟩ := Program.run_throw.mp hsettle
    obtain ⟨rfl, rfl⟩ := hrest.of_ne nofun
    refine ⟨rfl, rfl, walletMemory_session hthreads ?_⟩
    rw [List.append_nil, List.append_nil]
    exact hkeeps

/-- The part of a run before the prompt connects from a session that is not over. -/
theorem restoreSession_connects {target : String × String}
    (hrestore : Program.Run (restoreSession overStorage config) t₁ y)
    (hthreads : walletMemory.Threads s (t₁ ++ t₂).answered s')
    (ht : t₁ = before ++ e :: after) (htarget : WalletRequest.connection? e.request = some target) :
    ∃ session now rest, s.session = some session ∧ before = sessionChecked session now ++ rest ∧
      session.expiredAt now = false := by
  have hconnects : ∀ {u : History FaultyWallet},
      (∀ e' ∈ u, WalletRequest.connection? e'.request = none) → e ∉ u := by
    intro u hu he
    rw [hu e he] at htarget
    exact nomatch htarget
  have he : e ∈ t₁ := by
    rw [ht]
    exact List.mem_append_right before List.mem_cons_self
  rcases run_restoreSession hrestore with
    ⟨_, rfl, -⟩ | ⟨rfl, -⟩ | ⟨session, now, rest, rfl, hattempt⟩
  · rw [List.mem_singleton.mp he] at htarget
    exact nomatch htarget
  · rw [List.mem_singleton.mp he] at htarget
    exact nomatch htarget
  · have hchecked : ∀ e' ∈ sessionChecked session now,
        WalletRequest.connection? e'.request = none :=
      fun e' he' => connection_of_sessionChecked he'
    have hnot := hconnects hchecked
    obtain ⟨rest', hbefore, hrest⟩ := exists_of_append_eq_of_notMem hnot ht
    rw [List.append_assoc] at hthreads
    refine ⟨session, now, rest', stored_of_checked hthreads, hbefore, ?_⟩
    rcases hattempt with ⟨-, hdrop⟩ | ⟨hexpired, -⟩
    · refine absurd ?_ (hconnects fun e' he' => connection_of_dropExpired hdrop he')
      rw [hrest]
      exact List.mem_append_right rest' List.mem_cons_self
    · exact hexpired

/-- The prompt asks the passkey once. -/
theorem connectPrompted_asks (hrun : Program.Run (connectPrompted overStorage config) t₂ x)
    (ht : t₂ = before ++ e :: after)
    (he : WalletRequest.asksAuthenticator e.request = true) :
    ∃ challenge, before = [answered .generateChallenge challenge] ∧
      ((∃ error, e = answered (.startAuthentication challenge) (.error error) ∧ after = [] ∧
          x = .error error) ∨
        ∃ response y, e = answered (.startAuthentication challenge) (.ok response) ∧
          Program.Run (connectAnswer config response challenge) after y ∧ x = y.map some ∧
          ∀ e' ∈ after, WalletRequest.asksAuthenticator e'.request = false) := by
  obtain ⟨challenge, hasked⟩ := run_connectPrompted hrun
  -- the challenge is no question, and after the answer there is none
  have hfirst : ∀ rest, t₂ = answered .generateChallenge challenge :: rest →
      ∃ before', before = answered .generateChallenge challenge :: before' ∧
        rest = before' ++ e :: after := by
    intro rest hrest
    have hnot : e ∉ [answered .generateChallenge challenge] := by
      intro hmem
      rw [List.mem_singleton.mp hmem] at he
      exact nomatch he
    exact exists_of_append_eq_of_notMem hnot (hrest.symm.trans ht)
  refine ⟨challenge, ?_⟩
  rcases hasked with ⟨error, hshape, rfl⟩ | ⟨response, u, y, hshape, hconnect, rfl⟩
  · obtain ⟨before', rfl, hrest⟩ := hfirst _ hshape
    cases before' with
    | nil =>
      obtain ⟨rfl, rfl⟩ := List.cons.inj hrest
      exact ⟨rfl, Or.inl ⟨error, rfl, rfl, rfl⟩⟩
    | cons e' before' =>
      have hlength := congrArg List.length hrest
      simp at hlength
  · have hquiet : ∀ e' ∈ u, WalletRequest.asksAuthenticator e'.request = false := fun e' he' =>
      ((connectWithCredentials_silent (Or.inl rfl)).overStorage u y hconnect e' he').1
    obtain ⟨before', rfl, hrest⟩ := hfirst _ hshape
    cases before' with
    | nil =>
      obtain ⟨rfl, rfl⟩ := List.cons.inj hrest
      exact ⟨rfl, Or.inr ⟨response, y, rfl, hconnect, rfl, hquiet⟩⟩
    | cons e' before' =>
      have hu := (List.cons.inj hrest).2
      have hsilent := hquiet e (by rw [hu]; exact List.mem_append_right _ List.mem_cons_self)
      rw [hsilent] at he
      exact nomatch he

/-- The prompt connects after it has asked the passkey. -/
theorem connectPrompted_connects {target : String × String}
    (hrun : Program.Run (connectPrompted overStorage config) t₂ x) (ht : t₂ = before ++ e :: after)
    (htarget : WalletRequest.connection? e.request = some target) :
    ∃ e' ∈ before, WalletRequest.asksAuthenticator e'.request = true := by
  obtain ⟨challenge, hasked⟩ := run_connectPrompted hrun
  have hshape : ∃ reply rest, t₂ = [answered .generateChallenge challenge,
      answered (.startAuthentication challenge) reply] ++ rest := by
    rcases hasked with ⟨error, hshape, -⟩ | ⟨response, u, y, hshape, -⟩
    · exact ⟨_, [], hshape⟩
    · exact ⟨_, u, hshape⟩
  obtain ⟨reply, rest, hrest⟩ := hshape
  have hnot : e ∉ [answered .generateChallenge challenge,
      answered (.startAuthentication challenge) reply] := by
    intro hmem
    rcases List.mem_cons.mp hmem with rfl | hmem
    · exact nomatch htarget
    · rw [List.mem_singleton.mp hmem] at htarget
      exact nomatch htarget
  obtain ⟨u, rfl, -⟩ := exists_of_append_eq_of_notMem hnot (hrest.symm.trans ht)
  exact ⟨answered (.startAuthentication challenge) reply, by simp, rfl⟩

/-- Restoring is silent, drops only sessions that are over or refused, and asks the passkey last. -/
theorem connectWallet_restores_silently (hcredential : nonEmptyText options.credentialId = none)
    (hcontract : nonEmptyText options.contractId = none)
    (hrun : Program.Run (connectWalletOver overStorage config options) t x)
    (hthreads : walletMemory.Threads s t.answered s') :
    RestoresSilently config options s t x s' := by
  obtain ⟨t₁, y, t₂, rfl, hrestore, hrest⟩ := run_connectWallet hcredential hcontract hrun
  have hquiet : ∀ e ∈ t₁, WalletRequest.asksAuthenticator e.request = false := fun e he =>
    (restoreUnlessFresh_silent t₁ y hrestore e he).1
  have hsession : options.fresh = false →
      Program.Run (restoreSession overStorage config) t₁ y := by
    intro hfresh
    rw [← restoreUnlessFresh_of_not_fresh hfresh]
    exact hrestore
  constructor
  case silent =>
    intro hprompt hfresh
    obtain ⟨rfl, -⟩ := hrest.of_silent hprompt hfresh
    rw [List.append_nil]
    exact hquiet
  case begins =>
    intro hfresh
    rcases run_restoreSession (hsession hfresh) with
      ⟨error, rfl, rfl⟩ | ⟨rfl, -⟩ | ⟨session, now, rest, rfl, -⟩
    · obtain ⟨rfl, rfl⟩ := hrest.of_ne nofun
      exact Or.inl ⟨error, rfl, rfl⟩
    · have hthreads' : walletMemory.Threads s (⟨.getSession, none⟩ :: t₂.answered) s' := hthreads
      obtain ⟨s₁, hstep, -⟩ := Memory.threads_cons.mp hthreads'
      exact Or.inr (Or.inl ⟨t₂, rfl, (hstep.served_inv rfl).1.symm⟩)
    · rw [List.append_assoc] at hthreads ⊢
      exact Or.inr (Or.inr ⟨session, now, rest ++ t₂, rfl, stored_of_checked hthreads⟩)
  case expired =>
    intro hfresh session now rest ht hexpired
    obtain ⟨rest₁, rfl, ⟨-, hdrop⟩ | ⟨hnot, -⟩⟩ := restoreSession_checked (hsession hfresh) ht
    · rw [ht] at hthreads
      exact expires_of_run hfresh hdrop hrest hthreads
    · rw [hexpired] at hnot
      cases hnot
  case refused =>
    intro hfresh session now u error rest ht hexpired hconnect
    exact (settled_of_error hfresh rfl hexpired (hsession hfresh) hrest hthreads ht hconnect).1
  case rethrown =>
    intro hfresh session now u error rest ht hexpired hconnect
    exact (settled_of_error hfresh rfl hexpired (hsession hfresh) hrest hthreads ht hconnect).2
  case connects =>
    intro before e after target ht htarget hbefore
    -- the prompt connects after it has asked the passkey
    have hprompted : ∀ u, t₂ = u ++ e :: after →
        ∃ e' ∈ u, WalletRequest.asksAuthenticator e'.request = true := by
      intro u ht₂
      rcases hrest with ⟨rfl, -⟩ | ⟨-, -, hprompt⟩
      · cases u <;> cases ht₂
      · exact connectPrompted_connects hprompt ht₂ htarget
    rcases List.append_eq_append_iff.mp ht with ⟨u, rfl, ht₂⟩ | ⟨u, hu, ht₂⟩
    · obtain ⟨e', he', hasks⟩ := hprompted u ht₂
      rw [hbefore e' (List.mem_append_right t₁ he')] at hasks
      cases hasks
    · cases u with
      | nil =>
        obtain ⟨e', he', -⟩ := hprompted [] ht₂.symm
        exact absurd he' List.not_mem_nil
      | cons e₁ u =>
        obtain ⟨rfl, -⟩ := List.cons.inj ht₂
        by_cases hfresh : options.fresh = true
        · rw [restoreUnlessFresh, if_pos hfresh] at hrestore
          rw [(Program.run_pure.mp hrestore).1] at hu
          cases before <;> cases hu
        · have hnot : options.fresh = false := Bool.eq_false_iff.mpr hfresh
          exact ⟨hnot, restoreSession_connects (hsession hnot) hthreads hu htarget⟩
  case prompted =>
    intro before e after ht he
    have hnot : e ∉ t₁ := by
      intro hmem
      rw [hquiet e hmem] at he
      cases he
    obtain ⟨u, rfl, ht₂⟩ := exists_of_append_eq_of_notMem hnot ht
    rcases hrest with ⟨rfl, -⟩ | ⟨rfl, hoptions, hprompt⟩
    · cases u <;> cases ht₂
    obtain ⟨challenge, rfl, hasked⟩ := connectPrompted_asks hprompt ht₂ he
    refine ⟨hoptions, t₁, challenge, rfl, hrestore, fun hsound e' he' => ?_, hasked⟩
    by_cases hfresh : options.fresh = true
    · rw [restoreUnlessFresh, if_pos hfresh] at hrestore
      rw [(Program.run_pure.mp hrestore).1] at he'
      exact absurd he' List.not_mem_nil
    · exact restoreSession_unconnected (hsession (Bool.eq_false_iff.mpr hfresh)) hsound he'

end restores

/-- A session that ends at time 5. -/
def sampleEndingSession : StoredSession :=
  { contractId := sampleContractId 7, credentialId := "AQ", expiresAt := some (.ofNat 5) }

/-- At time 6 the session is dropped, after the listeners were told. -/
theorem connectWallet_restores_silently_sample :
    RestoresSilently sampleConnectionConfig {} ⟨[], some sampleEndingSession⟩
      [answered .getSession (some sampleEndingSession), answered .dateNow 6,
        answered (expiryEvent sampleEndingSession) (.ok ()), answered .clearSession ()] (.ok none)
      ⟨[], none⟩ := by
  have hexpired : sampleEndingSession.expiredAt 6 = true := by decide
  have hdrop : Program.Run (dropSession overStorage) [answered .clearSession ()] (.ok none) :=
    Program.run_bind.mpr (Or.inr ⟨(), [_], [], rfl,
      Program.run_withFaults_await.mpr (Or.inl ⟨(), rfl, rfl⟩), Program.run_pure.mpr ⟨rfl, rfl⟩⟩)
  have htold : Program.Run (dropExpired overStorage sampleEndingSession)
      [answered (expiryEvent sampleEndingSession) (.ok ()), answered .clearSession ()]
      (.ok none) :=
    Program.run_bind.mpr (Or.inr ⟨(), [_], _, rfl,
      Program.run_withFaults_await.mpr (Or.inl ⟨.ok (), rfl, rfl⟩), hdrop⟩)
  have hclock : Program.Run (sessionExpired overStorage sampleEndingSession)
      [answered .dateNow 6] (.ok (sampleEndingSession.expiredAt 6)) := by
    rw [sessionExpired, if_pos (by decide)]
    exact Program.run_bind.mpr (Or.inr ⟨6, [_], [], rfl,
      Program.run_withFaults_await.mpr (Or.inl ⟨6, rfl, rfl⟩), Program.run_pure.mpr ⟨rfl, rfl⟩⟩)
  have hrestore : Program.Run (restoreSession overStorage sampleConnectionConfig) _ (.ok none) :=
    Program.run_bind.mpr (Or.inr ⟨some sampleEndingSession, [_], _, rfl,
      Program.run_withFaults_await.mpr (Or.inl ⟨_, rfl, rfl⟩),
      Program.run_bind.mpr (Or.inr ⟨_, _, _, rfl, hclock, by rw [hexpired]; exact htold⟩)⟩)
  have hrun : Program.Run (connectWalletOver overStorage sampleConnectionConfig {}) _ (.ok none) :=
    Program.run_bind.mpr (Or.inr ⟨none, _, [], (List.append_nil _).symm, hrestore,
      Program.run_pure.mpr ⟨rfl, rfl⟩⟩)
  have hthreads : walletMemory.Threads ⟨[], some sampleEndingSession⟩
      [⟨.getSession, some sampleEndingSession⟩, ⟨.dateNow, (6 : ℕ)⟩,
        ⟨expiryEvent sampleEndingSession, .ok ()⟩, ⟨.clearSession, ()⟩]
      ⟨[], none⟩ :=
    Memory.Threads.cons (Memory.Step.served rfl) (Memory.Threads.cons (Memory.Step.other rfl)
      (Memory.Threads.cons (Memory.Step.other rfl)
        (Memory.Threads.cons (Memory.Step.served rfl) (Memory.Threads.nil _))))
  exact connectWallet_restores_silently rfl rfl hrun hthreads

end SmartAccountKit
