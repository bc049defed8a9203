import SmartAccountKit.Provenance

/-!
# What an accepted birth says

A verified birth is the creation of the candidate's contract in the claimed
transaction, with the claimed code and an approved constructor.
-/

namespace SmartAccountKit
open Lib

/-! ## Hashes -/

/-- Hexadecimal text of 32 bytes is a hash in normal form. -/
theorem isHashHex_toHex (bs : BytesN 32) : IsHashHex (toHex bs.1) := by
  have hbyte : ∀ b : UInt8, (hexByte b).length = 2 ∧ ∀ c ∈ hexByte b, c ∈ hexAlphabet := by
    intro b
    have hb := b.toNat_lt
    have hdigit : ∀ d < 16, hexAlphabet.getD d '0' ∈ hexAlphabet := by decide
    refine ⟨rfl, fun c hc => ?_⟩
    rcases List.mem_cons.mp hc with rfl | hc
    · exact hdigit _ (by omega)
    · rw [List.mem_singleton.mp hc]
      exact hdigit _ (by omega)
  have hlength : ∀ cs : Bytes, (cs.flatMap hexByte).length = 2 * cs.length := by
    intro cs
    induction cs with
    | nil => rfl
    | cons b cs ih =>
      rw [List.flatMap_cons, List.length_append, (hbyte b).1, ih, List.length_cons]
      omega
  constructor
  · rw [toHex, String.length_ofList, hlength, bs.2]
  · rw [toHex, String.toList_ofList]
    intro c hc
    obtain ⟨b, -, hb⟩ := List.mem_flatMap.mp hc
    exact (hbyte b).2 c hb

theorem normalizeHashHex_eq_self {text : String} (h : IsHashHex text) :
    normalizeHashHex text = some text := by
  have hlower : ∀ c ∈ hexAlphabet, c.toLower = c := by
    have hall : (hexAlphabet.all fun c => c.toLower == c) = true := by decide
    intro c hc
    exact beq_iff_eq.mp (List.all_eq_true.mp hall c hc)
  have hmap : text.map Char.toLower = text := by
    apply String.toList_injective
    rw [String.toList_map]
    exact List.map_congr_left (fun c hc => hlower c (h.2 c hc)) |>.trans (List.map_id _)
  rw [normalizeHashHex, hmap, if_pos h]

theorem IsHashHex.ne_empty {text : String} (h : IsHashHex text) : text ≠ "" := by
  intro hempty
  have := h.1
  rw [hempty] at this
  exact absurd this (by decide)

/-! ## Verdicts -/

section settle

variable {I : Interface} {ρ α : Type} {t : History I}

/-- A verification that accepts has run to its end. -/
theorem run_settle_ok {p : Program I (Stop ρ) α} {a : α}
    (h : Program.Run (settle p) t (.ok (.ok a))) : Program.Run p t (.ok a) := by
  obtain ⟨x, t₁, t₂, rfl, hattempt, hresult⟩ := Program.run_bind_ok.mp h
  obtain ⟨_, hrun, hx⟩ := Program.run_attempt.mp hattempt
  rw [← Except.ok.inj hx] at hrun
  match x with
  | .ok value =>
    obtain ⟨rfl, hvalue⟩ := Program.run_pure.mp hresult
    rw [Verdict.ok.inj (Except.ok.inj hvalue), List.append_nil]
    exact hrun
  | .error (.fail _ _) => exact nomatch Except.ok.inj (Program.run_pure.mp hresult).2
  | .error (.thrown _) => exact nomatch (Program.run_throw.mp hresult).2

theorem run_settle_of_ok {p : Program I (Stop ρ) α} {a : α} (h : Program.Run p t (.ok a)) :
    Program.Run (settle p) t (.ok (.ok a)) :=
  Program.run_bind_ok.mpr ⟨.ok a, t, [], (List.append_nil t).symm,
    Program.run_attempt.mpr ⟨.ok a, h, rfl⟩, Program.run_pure.mpr ⟨rfl, rfl⟩⟩

theorem exchanges_settle {P : I.Request → Prop} {p : Program I (Stop ρ) α}
    (hp : Program.Exchanges P (fun _ => True) p) :
    Program.Exchanges P (fun _ => True) (settle p) := by
  refine Program.exchanges_bind (Program.exchanges_attempt hp) fun x _ _ => ?_
  match x with
  | .ok _ => exact Program.exchanges_done
  | .error (.fail _ _) => exact Program.exchanges_done
  | .error (.thrown _) => exact Program.exchanges_done

end settle

/-! ## Programs that write nothing -/

theorem verifyWalletBirth_onlyChecks (deps : WalletBirthVerificationDeps)
    (candidate : WalletCandidate) : OnlyChecks (verifyWalletBirth deps candidate) := by
  have hread : ∀ txHash, OnlyChecks (readCreationTransaction deps.hasHistory txHash) := by
    intro txHash
    refine Program.exchanges_bind (onlyChecks_await rfl) fun response _ _ => ?_
    cases response with
    | success ledger envelope => exact Program.exchanges_done
    | failed => exact Program.exchanges_done
    | notFound =>
      dsimp only
      split
      · exact onlyChecks_await rfl
      · exact Program.exchanges_done
  refine exchanges_settle ?_
  refine Program.exchanges_ofExcept_bind fun claimed _ => ?_
  refine Program.exchanges_bind (hread claimed.2) fun found _ _ => ?_
  dsimp only
  split
  · exact Program.exchanges_done
  · exact Program.exchanges_ofExcept_bind fun _ _ => Program.exchanges_done

/-! ## Accepted births -/

theorem orThrow_eq_ok {ρ α : Type} {x : Except JsError α} {a : α} :
    (orThrow x : Except (Stop ρ) α) = .ok a ↔ x = .ok a := by
  cases x <;> simp [orThrow]

theorem addressText_eq_ok {address : ScAddress} {text : String} :
    addressText address = .ok text ↔ address.toStrkey = some text := by
  unfold addressText
  cases h : address.toStrkey <;> simp

section accepted

variable {deps : WalletBirthVerificationDeps} {candidate : WalletCandidate}
  {claimedWasm txHash : String} {envelope : DecodedEnvelope} {birth : VerifiedWalletBirth}
  {create : CreateContractArgsV2}

theorem findCreation_eq_ok :
    findCreation deps candidate txHash envelope = .ok create ↔
      toHex envelope.hash.1 = txHash ∧
        matchingCreations deps.networkPassphrase candidate.contractId envelope.innerTransaction =
          [create] := by
  unfold findCreation
  split_ifs with hhash
  · simp [hhash]
  · rw [not_not] at hhash
    split
    next only hmatch => simp [hhash, hmatch]
    next hmatch => simp [hmatch]
    next hnone hsome =>
      refine iff_of_false (fun h => nomatch h) fun h => hnone _ h.2

/-- The creation is for the candidate's address. -/
theorem contractIdFromCreateV2_of_mem {passphrase contractId : String} {tx : DecodedTransaction}
    (h : create ∈ matchingCreations passphrase contractId tx) :
    contractIdFromCreateV2 passphrase create = some contractId := by
  simpa using (List.mem_filter.mp h).2

theorem verifyCreation_eq_ok :
    verifyCreation deps candidate claimedWasm txHash envelope = .ok birth ↔
      ∃ create signer, findCreation deps candidate txHash envelope = .ok create ∧
        checkContractIdPreimage create.contractIdPreimage deps = .ok () ∧
        checkExecutable create.executable claimedWasm deps.acceptedBirthWasmHashes = .ok () ∧
        constructorSigner create.constructorArgs deps.webauthnVerifierAddress = .ok signer ∧
        checkConstructorArgs create.constructorArgs deps = .ok () ∧
        birth = { candidate with
          birthWasmHash := claimedWasm
          creationTransactionHash := txHash
          constructorArgsHash := SmartAccountKit.constructorArgsHash create.constructorArgs
          birthSigner := signer } := by
  unfold verifyCreation validateConstructor
  simp only [except_bind_eq_ok]
  constructor
  · rintro ⟨create, hfind, _, hpreimage, _, hexecutable, ⟨signer, argsHash⟩,
      ⟨signer', hsigner, _, hargs, hpair⟩, hbirth⟩
    have hpair := Except.ok.inj hpair
    obtain rfl : signer' = signer := congrArg Prod.fst hpair
    obtain rfl : _ = argsHash := congrArg Prod.snd hpair
    exact ⟨create, signer', hfind, hpreimage, hexecutable, hsigner, hargs,
      (Except.ok.inj hbirth).symm⟩
  · rintro ⟨create, signer, hfind, hpreimage, hexecutable, hsigner, hargs, rfl⟩
    exact ⟨create, hfind, (), hpreimage, (), hexecutable, _,
      ⟨signer, hsigner, (), hargs, rfl⟩, rfl⟩

/-- An exchange in which the network or the history service reports an envelope. -/
def ReportsEnvelope (e : Exchange WalletEnvironment) (envelope : DecodedEnvelope) : Prop :=
  (∃ txHash ledger, e = ⟨.getTransaction txHash, .ok (.success ledger (.ok envelope))⟩) ∨
    ∃ txHash historical, e = ⟨.getHistoricalTransaction txHash, .ok historical⟩ ∧
      historical.envelope = .ok envelope

theorem run_readCreationTransaction_ok {hasHistory : Bool} {ledger : JsNumber}
    {t : History WalletEnvironment}
    (h : Program.Run (readCreationTransaction hasHistory txHash) t (.ok (ledger, .ok envelope))) :
    ∃ e ∈ t, ReportsEnvelope e envelope := by
  obtain ⟨response, t₁, t₂, rfl, hasked, hrest⟩ := Program.run_bind_ok.mp h
  obtain ⟨reply, rfl, hreply⟩ := Program.run_await.mp hasked
  obtain rfl := orThrow_eq_ok.mp hreply.symm
  cases response with
  | success found reported =>
    have hpair := Except.ok.inj (Program.run_pure.mp hrest).2
    rw [← (Prod.mk.inj hpair).2]
    exact ⟨_, List.mem_cons_self, Or.inl ⟨txHash, found, rfl⟩⟩
  | failed => exact nomatch (Program.run_throw.mp hrest).2
  | notFound =>
    dsimp only at hrest
    split_ifs at hrest with hhistory
    · obtain ⟨answer, rfl, hread⟩ := Program.run_await.mp hrest
      cases answer with
      | ok historical =>
        dsimp only at hread
        split_ifs at hread
        have hpair := Except.ok.inj hread
        exact ⟨_, by simp, Or.inr ⟨txHash, historical, rfl, (Prod.mk.inj hpair).2.symm⟩⟩
      | error error =>
        dsimp only at hread
        split_ifs at hread
    · exact nomatch (Program.run_throw.mp hrest).2

/-- A birth that is accepted is the creation in an envelope of the claimed transaction that was
reported. -/
theorem run_verifyWalletBirth_ok {t : History WalletEnvironment}
    (h : Program.Run (verifyWalletBirth deps candidate) t (.ok (.ok birth))) :
    ∃ claimedWasm txHash envelope, readCandidate candidate = .ok (claimedWasm, txHash) ∧
      verifyCreation deps candidate claimedWasm txHash envelope = .ok birth ∧
      ∃ e ∈ t, ReportsEnvelope e envelope := by
  obtain ⟨⟨claimedWasm, txHash⟩, hclaimed, hrun⟩ :=
    Program.run_ofExcept_bind_ok.mp (run_settle_ok h)
  obtain ⟨⟨ledger, envelope⟩, t₁, t₂, rfl, hread, hrun⟩ := Program.run_bind_ok.mp hrun
  dsimp only at hrun
  split_ifs at hrun with hledger
  · exact nomatch (Program.run_throw.mp hrun).2
  · obtain ⟨envelope', henvelope, hrun⟩ := Program.run_ofExcept_bind_ok.mp hrun
    rw [orThrow_eq_ok.mp henvelope] at hread
    obtain ⟨e, he, hreports⟩ := run_readCreationTransaction_ok hread
    exact ⟨claimedWasm, txHash, envelope', hclaimed, (Program.run_ofExcept.mp hrun).2.symm, e,
      List.mem_append_left t₂ he, hreports⟩

/-- A creation found at the claimed ledger is accepted if it passes the checks. -/
theorem run_verifyWalletBirth_of_success
    (hclaimed : readCandidate candidate = .ok (claimedWasm, txHash))
    (hcreation : verifyCreation deps candidate claimedWasm txHash envelope = .ok birth) :
    Program.Run (verifyWalletBirth deps candidate)
      [⟨.getTransaction txHash, .ok (.success candidate.creationLedger (.ok envelope))⟩]
      (.ok (.ok birth)) := by
  refine run_settle_of_ok (Program.run_ofExcept_bind_ok.mpr ⟨_, hclaimed, ?_⟩)
  refine Program.run_bind_ok.mpr ⟨(candidate.creationLedger, .ok envelope), [_], [], rfl, ?_, ?_⟩
  · exact Program.run_bind_ok.mpr ⟨_, [_], [], rfl, Program.run_await.mpr ⟨_, rfl, rfl⟩,
      Program.run_pure.mpr ⟨rfl, rfl⟩⟩
  · dsimp only
    rw [if_neg (not_not.mpr rfl)]
    exact Program.run_ofExcept_bind_ok.mpr
      ⟨envelope, rfl, Program.run_ofExcept.mpr ⟨rfl, hcreation.symm⟩⟩

theorem readCandidate_of_hashes (hwasm : IsHashHex candidate.birthWasmHash)
    (htx : IsHashHex candidate.creationTransactionHash)
    (hsafe : candidate.creationLedger.isSafeInteger = true)
    (hledger : candidate.creationLedger.lt (.ofNat 1) = false) :
    readCandidate candidate = .ok (candidate.birthWasmHash, candidate.creationTransactionHash) := by
  rw [readCandidate, normalizeHashHex_eq_self hwasm, normalizeHashHex_eq_self htx]
  simp [hsafe, hledger]

end accepted

end SmartAccountKit
