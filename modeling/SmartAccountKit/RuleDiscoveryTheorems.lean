import SmartAccountKit.RuleAgreement

/-!
# What rule discovery finds

The rules that a listing returns in a run of it, whatever the reads reply: which
rules on-chain it has found, and when a failed read makes it drop one.
-/

namespace SmartAccountKit
open Lib

/-! ## Stretches -/

/-- Some `limit` numbers in a row below `n` all satisfy `P`. -/
def StretchBelow (P : ℕ → Prop) (limit n : ℕ) : Prop :=
  ∃ j, j + limit ≤ n ∧ ∀ k, j ≤ k → k < j + limit → P k

/-- The numbers that satisfy `P` directly below `n` are `m` in a row. -/
structure LastStretch (P : ℕ → Prop) (n m : ℕ) : Prop where
  le : m ≤ n
  all : ∀ k, n - m ≤ k → k < n → P k
  before : m = n ∨ ¬P (n - m - 1)

section stretches

variable {P Q : ℕ → Prop} {limit m n : ℕ}

theorem StretchBelow.mono (h : StretchBelow P limit m) (hmn : m ≤ n) (hPQ : ∀ k < m, P k → Q k) :
    StretchBelow Q limit n := by
  obtain ⟨j, hj, hall⟩ := h
  exact ⟨j, by omega, fun k hjk hk => hPQ k (by omega) (hall k hjk hk)⟩

theorem LastStretch.zero : LastStretch P 0 0 where
  le := le_refl 0
  all k _ hk := by omega
  before := Or.inl rfl

theorem LastStretch.hit (h : ¬P n) : LastStretch P (n + 1) 0 where
  le := Nat.zero_le _
  all k hk hk' := by omega
  before := Or.inr h

theorem LastStretch.miss (h : LastStretch P n m) (hn : P n) : LastStretch P (n + 1) (m + 1) where
  le := by have := h.le; omega
  all k hk hk' := by
    by_cases hlast : k = n
    · rw [hlast]; exact hn
    · exact h.all k (by omega) (by omega)
  before := by
    refine h.before.imp (fun heq => by omega) fun hbefore => ?_
    rwa [show n + 1 - (m + 1) - 1 = n - m - 1 by omega]

theorem LastStretch.congr (h : LastStretch P n m) (hPQ : ∀ k < n, P k ↔ Q k) :
    LastStretch Q n m where
  le := h.le
  all k hk hk' := (hPQ k hk').mp (h.all k hk hk')
  before := by
    have hle := h.le
    by_cases heq : m = n
    · exact Or.inl heq
    · exact Or.inr fun hQ => (h.before.resolve_left heq) ((hPQ _ (by omega)).mpr hQ)

/-- With no stretch before `n`, there is one before `n + 1` when the last one is long enough. -/
theorem LastStretch.stretchBelow_iff (h : LastStretch P (n + 1) m)
    (hnone : ¬StretchBelow P limit n) : StretchBelow P limit (n + 1) ↔ limit ≤ m := by
  have hle := h.le
  constructor
  · intro ⟨j, hj, hall⟩
    by_contra hshort
    have hlast : ¬j + limit ≤ n := fun hbelow => hnone ⟨j, hbelow, hall⟩
    -- the stretch reaches over the number that ends the last one
    rcases h.before with heq | hbefore
    · omega
    · exact hbefore (hall _ (by omega) (by omega))
  · intro hlong
    exact ⟨n + 1 - m, by omega, fun k hk hk' => h.all k hk (by omega)⟩

end stretches

/-! ## Reads -/

/-- The replies of a run are true of a chain: a rule that is read is on-chain, and one that is
reported as missing is not. A read may fail with any other error. -/
structure Truthful (chain : ChainState) (t : History Environment) : Prop where
  found : ∀ id r, ⟨.readContextRule id, .ok r⟩ ∈ t → chain.rule id = some r
  missing : ∀ id e, ⟨.readContextRule id, .error e⟩ ∈ t → isMissingContextRuleError e = true →
    chain.rule id = none
  ledger : ∀ ledger, ⟨.getLatestLedger, .ok ledger⟩ ∈ t → ledger = chain.latestLedger

/-- A read of a rule has failed. -/
def ReadFailed (t : History Environment) (id : UInt32) : Prop :=
  ∃ e, ⟨.readContextRule id, .error e⟩ ∈ t

/-- The number `n` is no id of a rule whose reads did not fail. -/
def Missed (t : History Environment) (n : ℕ) : Prop :=
  ∀ id : UInt32, id.toNat = n → ReadFailed t id

theorem Truthful.mono {chain : ChainState} {t t' : History Environment} (h : Truthful chain t)
    (hsub : t' ⊆ t) : Truthful chain t' where
  found id r hread := h.found id r (hsub hread)
  missing id e hread := h.missing id e (hsub hread)
  ledger ledger hread := h.ledger ledger (hsub hread)

theorem missed_toNat {t : History Environment} {id : UInt32} :
    Missed t id.toNat ↔ ReadFailed t id := by
  constructor
  · intro h
    exact h id rfl
  · intro h id' hid
    rwa [UInt32.toNat_inj.mp hid]

/-- Two reads are one exchange when they read one id and got one reply. -/
theorem readExchange_inj {id id' : UInt32} {reply reply' : Except JsError ContextRule} :
    (⟨.readContextRule id, reply⟩ : Exchange Environment) = ⟨.readContextRule id', reply'⟩ ↔
      id = id' ∧ reply = reply' := by
  constructor
  · intro h
    obtain rfl : id = id' := Request.readContextRule.inj (congrArg Exchange.request h)
    exact ⟨rfl, eq_of_heq (Exchange.mk.inj h).2⟩
  · rintro ⟨rfl, rfl⟩
    rfl

/-- Reading the rule with an id of any size. -/
theorem run_readContextRule_ofNat {n : ℕ} {t : History Environment}
    {read : Except JsError ContextRule}
    (h : Program.Run (readContextRule (.ofNat n)) t read) :
    (∃ id : UInt32, id.toNat = n ∧ t = [⟨.readContextRule id, read⟩]) ∨
      2 ^ 32 ≤ n ∧ t = [] ∧ ∃ e, read = .error e := by
  rw [readContextRule_ofNat] at h
  by_cases hn : n < 2 ^ 32
  · rw [if_pos hn] at h
    obtain ⟨reply, ht, hread⟩ := Program.run_await.mp h
    exact Or.inl ⟨UInt32.ofNat n, UInt32.toNat_ofNat_of_lt' hn, by rw [ht, hread]⟩
  · rw [if_neg hn] at h
    obtain ⟨ht, hread⟩ := Program.run_throw.mp h
    exact Or.inr ⟨by omega, ht, invalidU32, hread⟩

/-! ## The probe -/

section probe

variable {limit n : ℕ} {t : History Environment} {probe : RuleProbe}

/-- What a probe has done after the ids below `n`, in the history `t`. -/
structure ProbeHistory (limit n : ℕ) (t : History Environment) (probe : RuleProbe) : Prop where
  reads : ∀ x ∈ t, ∃ (id : UInt32) (reply : Except JsError ContextRule),
    id.toNat < n ∧ x = ⟨.readContextRule id, reply⟩
  once : ∀ id r, ⟨.readContextRule id, .ok r⟩ ∈ t → ¬Missed t id.toNat ∧
    ¬StretchBelow (Missed t) (max limit 1) id.toNat
  found : ∀ r, r ∈ probe.probedRules ↔ ∃ id, ⟨.readContextRule id, .ok r⟩ ∈ t
  seen : ∀ id : UInt32, id.toNat < n → (∃ r, ⟨.readContextRule id, .ok r⟩ ∈ t) ∨
    Missed t id.toNat ∨ StretchBelow (Missed t) (max limit 1) id.toNat
  stopped : probe.stopped = true → StretchBelow (Missed t) (max limit 1) n
  goesOn : probe.stopped = false → LastStretch (Missed t) n probe.misses ∧
    ¬StretchBelow (Missed t) (max limit 1) n

/-- A probe that has given up stays as it is. -/
theorem ProbeHistory.skip (h : ProbeHistory limit n t probe) (hstopped : probe.stopped = true) :
    ProbeHistory limit (n + 1) t probe where
  reads x hx := by
    obtain ⟨id, reply, hid, hreply⟩ := h.reads x hx
    exact ⟨id, reply, by omega, hreply⟩
  once := h.once
  found := h.found
  seen id hid := by
    by_cases hbelow : id.toNat < n
    · exact h.seen id hbelow
    · exact Or.inr (Or.inr ((h.stopped hstopped).mono (by omega) fun _ _ hmissed => hmissed))
  stopped hs := (h.stopped hs).mono (by omega) fun _ _ hmissed => hmissed
  goesOn hs := by
    rw [hstopped] at hs
    cases hs

/-- Reading the id `n` says nothing about the ids below it. -/
theorem ProbeHistory.missed_append (h : ProbeHistory limit n t probe) {t' : History Environment}
    {read : Except JsError ContextRule}
    (hread : (∃ id : UInt32, id.toNat = n ∧ t' = [⟨.readContextRule id, read⟩]) ∨
      2 ^ 32 ≤ n ∧ t' = [] ∧ ∃ e, read = .error e) :
    (∀ k < n, Missed (t ++ t') k ↔ Missed t k) ∧
      (Missed (t ++ t') n ↔ ∃ e, read = .error e) := by
  rcases hread with ⟨id, rfl, rfl⟩ | ⟨hlarge, rfl, herror⟩
  · have hfailed : ∀ id' : UInt32, ReadFailed (t ++ [⟨.readContextRule id, read⟩]) id' ↔
        ReadFailed t id' ∨ id' = id ∧ ∃ e, read = .error e := by
      intro id'
      unfold ReadFailed
      simp only [List.mem_append, List.mem_singleton, exists_or]
      refine or_congr_right ⟨?_, ?_⟩
      · rintro ⟨e, he⟩
        obtain ⟨hid, hreply⟩ := readExchange_inj.mp he
        exact ⟨hid, e, hreply.symm⟩
      · rintro ⟨rfl, e, rfl⟩
        exact ⟨e, rfl⟩
    constructor
    · intro k hk
      refine forall_congr' fun id' => imp_congr_right fun hid' => ?_
      rw [hfailed]
      refine or_iff_left fun ⟨hsame, _⟩ => ?_
      rw [hsame] at hid'
      omega
    · rw [missed_toNat, hfailed]
      refine ⟨fun hor => ?_, fun herror => Or.inr ⟨rfl, herror⟩⟩
      rcases hor with ⟨e, he⟩ | ⟨_, herror⟩
      · -- the id was not read before
        obtain ⟨id', reply, hid', hsame⟩ := h.reads _ he
        rw [(readExchange_inj.mp hsame).1] at hid'
        omega
      · exact herror
  · rw [List.append_nil]
    refine ⟨fun k _ => Iff.rfl, ?_⟩
    have hmissed : Missed t n := fun id hid => by
      have := id.toNat_lt
      omega
    exact iff_of_true hmissed herror

/-- Counting the outcome of the read of `n`. -/
theorem ProbeHistory.record (h : ProbeHistory limit n t probe) (hgoesOn : probe.stopped = false)
    {t' : History Environment} {read : Except JsError ContextRule}
    (hread : (∃ id : UInt32, id.toNat = n ∧ t' = [⟨.readContextRule id, read⟩]) ∨
      2 ^ 32 ≤ n ∧ t' = [] ∧ ∃ e, read = .error e) :
    ProbeHistory limit (n + 1) (t ++ t') (probe.record limit read) := by
  obtain ⟨hbelow, hat⟩ := h.missed_append hread
  obtain ⟨hlast, hnone⟩ := h.goesOn hgoesOn
  have hstretch : ∀ m ≤ n, StretchBelow (Missed (t ++ t')) (max limit 1) m ↔
      StretchBelow (Missed t) (max limit 1) m := by
    intro m hm
    constructor
    · intro hs
      exact hs.mono (le_refl m) fun k hk hmissed => (hbelow k (by omega)).mp hmissed
    · intro hs
      exact hs.mono (le_refl m) fun k hk hmissed => (hbelow k (by omega)).mpr hmissed
  have hnone' : ¬StretchBelow (Missed (t ++ t')) (max limit 1) n := by
    rw [hstretch n (le_refl n)]
    exact hnone
  -- the successful reads are those before and, if it succeeds, the new one
  have hfound : ∀ id r, (⟨.readContextRule id, .ok r⟩ : Exchange Environment) ∈ t ++ t' ↔
      ⟨.readContextRule id, .ok r⟩ ∈ t ∨ id.toNat = n ∧ read = .ok r := by
    intro id r
    rw [List.mem_append]
    refine or_congr_right ?_
    rcases hread with ⟨idn, hidn, rfl⟩ | ⟨hlarge, rfl, e, rfl⟩
    · rw [List.mem_singleton, readExchange_inj, ← hidn, UInt32.toNat_inj]
      exact and_congr_right fun _ => eq_comm
    · refine iff_of_false List.not_mem_nil fun hok => ?_
      cases hok.2
  -- the misses counted are the last stretch, which ends the probe when it is long enough
  have hcount : LastStretch (Missed (t ++ t')) (n + 1) (probe.record limit read).misses ∧
      ((probe.record limit read).stopped = true ↔
        max limit 1 ≤ (probe.record limit read).misses) := by
    cases read with
    | ok r =>
      refine ⟨LastStretch.hit fun hmissed => ?_, ?_⟩
      · obtain ⟨e, he⟩ := hat.mp hmissed
        cases he
      · show probe.stopped = true ↔ max limit 1 ≤ 0
        rw [hgoesOn]
        simp
    | error e =>
      refine ⟨(hlast.congr fun k hk => (hbelow k hk).symm).miss (hat.mpr ⟨e, rfl⟩), ?_⟩
      show decide (limit ≤ probe.misses + 1) = true ↔ max limit 1 ≤ probe.misses + 1
      rw [decide_eq_true_iff]
      omega
  have hstops := hcount.1.stretchBelow_iff hnone'
  refine ⟨fun x hx => ?_, fun id r hr => ?_, fun r => ?_, fun id hid => ?_, fun hs => ?_,
    fun hs => ⟨hcount.1, ?_⟩⟩
  · rcases List.mem_append.mp hx with hx | hx
    · obtain ⟨id, reply, hid, hreply⟩ := h.reads x hx
      exact ⟨id, reply, by omega, hreply⟩
    · rcases hread with ⟨idn, hidn, rfl⟩ | ⟨_, rfl, _⟩
      · exact ⟨idn, read, by omega, List.mem_singleton.mp hx⟩
      · exact absurd hx List.not_mem_nil
  · rcases (hfound id r).mp hr with hr | ⟨hid, hok⟩
    · obtain ⟨id', reply, hid', hsame⟩ := h.reads _ hr
      rw [← (readExchange_inj.mp hsame).1] at hid'
      rw [hbelow _ hid', hstretch _ (by omega)]
      exact h.once id r hr
    · rw [hid]
      refine ⟨fun hmissed => ?_, hnone'⟩
      obtain ⟨e, he⟩ := hat.mp hmissed
      rw [hok] at he
      cases he
  · have hnew : r ∈ (probe.record limit read).probedRules ↔
        r ∈ probe.probedRules ∨ read = .ok r := by
      cases read with
      | ok r' =>
        show r ∈ r' :: probe.probedRules ↔ _
        rw [List.mem_cons, or_comm, Except.ok.injEq, eq_comm]
      | error e => exact (or_iff_left fun he => by cases he).symm
    rw [hnew, h.found]
    simp only [hfound, exists_or]
    refine or_congr_right ⟨fun hok => ?_, fun ⟨_, _, hok⟩ => hok⟩
    rcases hread with ⟨idn, hidn, _⟩ | ⟨_, _, e, he⟩
    · exact ⟨idn, hidn, hok⟩
    · rw [hok] at he
      cases he
  · by_cases hn : id.toNat = n
    · rw [hn]
      cases read with
      | ok r => exact Or.inl ⟨r, (hfound id r).mpr (Or.inr ⟨hn, rfl⟩)⟩
      | error e => exact Or.inr (Or.inl (hat.mpr ⟨e, rfl⟩))
    · have hlt : id.toNat < n := by omega
      rw [hbelow _ hlt, hstretch _ (by omega)]
      refine (h.seen id hlt).imp_left fun ⟨r, hr⟩ => ⟨r, ?_⟩
      exact (hfound id r).mpr (Or.inl hr)
  · exact hstops.mpr (hcount.2.mp hs)
  · intro hstretched
    rw [hcount.2.mpr (hstops.mp hstretched)] at hs
    cases hs

end probe

/-- What a probe has done at its end. -/
theorem run_probeContextRules_ok {probeConfig : ProbeRuleIds} {t : History Environment}
    {probedRules : List ContextRule}
    (hrun : Program.Run (probeContextRules probeConfig) t (.ok probedRules)) :
    ∃ probe, ProbeHistory probeConfig.missLimit (probeConfig.lastId + 1) t probe ∧
      probe.probedRules = probedRules := by
  obtain ⟨probe, t₁, t₂, rfl, hloop, hdone⟩ := Program.run_bind_ok.mp hrun
  obtain ⟨rfl, hprobed⟩ := Program.run_pure.mp hdone
  refine ⟨probe, ?_, (Except.ok.inj hprobed).symm⟩
  rw [List.append_nil]
  -- the rounds before one are those of the smaller ids
  have hinv := Program.run_forEach (fun ids t probe =>
    ids <+: List.range (probeConfig.lastId + 1) →
      ProbeHistory probeConfig.missLimit ids.length t probe) ?_ ?_ hloop
  · have hall := hinv List.prefix_rfl
    rwa [List.length_range] at hall
  · intro _
    exact
      { reads := fun x hx => absurd hx List.not_mem_nil
        once := fun id r hr => absurd hr List.not_mem_nil
        found := fun r => by simp [RuleProbe.start]
        seen := fun id hid => absurd hid (Nat.not_lt_zero _)
        stopped := fun hs => by cases hs
        goesOn := fun _ => ⟨LastStretch.zero, fun ⟨j, hj, _⟩ => by
          rw [List.length_nil] at hj
          omega⟩ }
  · intro ids n t₁ probe t₂ probe' _ hinv hround hprefix
    have h := hinv ((List.prefix_append ids [n]).trans hprefix)
    have hn : n = ids.length := by
      have hget := hprefix.getElem (i := ids.length) (by simp)
      simpa using hget
    rw [List.length_append, List.length_singleton]
    rw [probeContextRule] at hround
    by_cases hstopped : probe.stopped = true
    · rw [if_pos hstopped] at hround
      obtain ⟨rfl, hprobe⟩ := Program.run_pure.mp hround
      rw [List.append_nil, Except.ok.inj hprobe]
      exact h.skip hstopped
    · rw [if_neg hstopped] at hround
      obtain ⟨outcome, t₃, t₄, rfl, hattempt, hrecord⟩ := Program.run_bind_ok.mp hround
      obtain ⟨rfl, hprobe⟩ := Program.run_pure.mp hrecord
      obtain ⟨read, hread, houtcome⟩ := Program.run_attempt.mp hattempt
      rw [List.append_nil, Except.ok.inj hprobe, Except.ok.inj houtcome]
      rw [hn] at hread
      exact h.record (Bool.not_eq_true _ ▸ hstopped) (run_readContextRule_ofNat hread)

/-! ## The listing -/

/-- The indexer has listed a rule. -/
def Listed (contractId : String) (t : History Environment) (id : UInt32) : Prop :=
  ∃ ids, ⟨.getContractDetailsFromIndexer contractId, .ok (some ids)⟩ ∈ t ∧ id ∈ ids

section listing

variable {chain : ChainState} {contractId : String} {probeConfig : Option ProbeRuleIds}
  {probedRules rules : List ContextRule} {t : History Environment}

/-- Reading a rule that was found gives the rule on-chain, if the replies are true. -/
theorem run_readDiscoveredRule_ok {id : UInt32} {rule : Option ContextRule}
    (htruthful : Truthful chain t) (hprobed : ∀ r ∈ probedRules, chain.rule r.id = some r)
    (hrun : Program.Run (readDiscoveredRule probedRules id) t (.ok rule)) :
    rule = chain.rule id := by
  unfold readDiscoveredRule at hrun
  cases hfind : probedRules.find? fun rule => rule.id == id with
  | some cached =>
    rw [hfind] at hrun
    have hid : cached.id = id := by simpa using List.find?_some hfind
    rw [← hid, hprobed cached (List.mem_of_find?_eq_some hfind)]
    exact Except.ok.inj (Program.run_pure.mp hrun).2
  | none =>
    rw [hfind] at hrun
    dsimp only at hrun
    obtain ⟨outcome, t₁, t₂, rfl, hattempt, hdone⟩ := Program.run_bind_ok.mp hrun
    obtain ⟨read, hread, houtcome⟩ := Program.run_attempt.mp hattempt
    rw [readContextRule_ofU32] at hread
    obtain ⟨_, rfl, rfl⟩ := Program.run_await.mp hread
    rw [Except.ok.inj houtcome] at hdone
    cases read with
    | ok r =>
      rw [htruthful.found id r (by simp)]
      exact Except.ok.inj (Program.run_pure.mp hdone).2
    | error e =>
      dsimp only at hdone
      by_cases hmissing : isMissingContextRuleError e = true
      · rw [if_pos hmissing] at hdone
        rw [htruthful.missing id e (by simp) hmissing]
        exact Except.ok.inj (Program.run_pure.mp hdone).2
      · rw [if_neg hmissing] at hdone
        cases (Program.run_throw.mp hdone).2

/-- Only rules that the probe has not read are read again. -/
theorem readDiscoveredRule_exchanges (probedRules : List ContextRule) (id : UInt32) :
    Program.Exchanges (fun request : Request => ∃ id, request = .readContextRule id ∧
      id ∉ probedRules.map (·.id)) (fun _ => True) (readDiscoveredRule probedRules id) := by
  unfold readDiscoveredRule
  cases hfind : probedRules.find? fun rule => rule.id == id with
  | some cached => exact Program.exchanges_done
  | none =>
    have hnew : id ∉ probedRules.map (·.id) := by
      intro hmem
      obtain ⟨r, hr, hid⟩ := List.mem_map.mp hmem
      have := List.find?_eq_none.mp hfind r hr
      simp [hid] at this
    dsimp only
    rw [readContextRule_ofU32]
    refine Program.exchanges_ask ⟨id, rfl, hnew⟩ (fun reply => ?_) fun _ _ _ _ => trivial
    cases reply with
    | ok r => exact Program.exchanges_done
    | error e =>
      show Program.Exchanges _ _ (if isMissingContextRuleError e then _ else _)
      split_ifs <;> exact Program.exchanges_done

/-- What a listing knows from the indexer before it reads a rule. -/
theorem run_readIndexedRuleIds_ok {details : Option (List UInt32)}
    (hrun : Program.Run (readIndexedRuleIds contractId probeConfig) t (.ok details)) :
    ∃ reply : Except JsError (Option (List UInt32)),
      t = [⟨.getContractDetailsFromIndexer contractId, reply⟩] ∧
      ∀ ids, reply = .ok (some ids) ↔ details = some ids := by
  obtain ⟨outcome, t₁, t₂, rfl, hattempt, hdone⟩ := Program.run_bind_ok.mp hrun
  obtain ⟨reply, hasked, houtcome⟩ := Program.run_attempt.mp hattempt
  obtain ⟨_, rfl, rfl⟩ := Program.run_await.mp hasked
  rw [Except.ok.inj houtcome] at hdone
  cases reply with
  | ok found =>
    obtain ⟨rfl, hdetails⟩ := Program.run_pure.mp hdone
    refine ⟨.ok found, rfl, fun ids => ?_⟩
    rw [Except.ok.inj hdetails, Except.ok.injEq]
  | error e =>
    change Program.Run (if probeConfig.isNone then _ else _) _ _ at hdone
    split_ifs at hdone
    · cases (Program.run_throw.mp hdone).2
    · obtain ⟨rfl, hdetails⟩ := Program.run_pure.mp hdone
      refine ⟨.error e, rfl, fun ids => ?_⟩
      rw [Except.ok.inj hdetails]
      exact iff_of_false (fun h => by cases h) (fun h => by cases h)

/-- The rules that a probe has read are on-chain under their ids. -/
theorem rule_of_probed {probeConfig : ProbeRuleIds} (htruthful : Truthful chain t)
    (hrun : Program.Run (probeContextRules probeConfig) t (.ok probedRules)) {r : ContextRule}
    (hr : r ∈ probedRules) : chain.rule r.id = some r := by
  obtain ⟨probe, hprobe, rfl⟩ := run_probeContextRules_ok hrun
  obtain ⟨id, hread⟩ := (hprobe.found r).mp hr
  have hrule := htruthful.found id r hread
  rwa [chain.id_eq id r hrule]

/-- The rules that a listing returns are those that it has found, and what it has read says which
rules the probe has found. -/
theorem run_listContextRules_ok (htruthful : Truthful chain t)
    (hrun : Program.Run (listContextRules contractId probeConfig) t (.ok rules)) :
    ∃ (listed : List UInt32) (probedRules : List ContextRule) (t₁ t₂ t₃ : History Environment),
      t = t₁ ++ (t₂ ++ t₃) ∧
      rules = visibleRules chain (listed ++ probedRules.map (·.id)) ∧
      (∀ id, Listed contractId t₁ id ↔ id ∈ listed) ∧
      (∃ reply, t₁ = [⟨.getContractDetailsFromIndexer contractId, reply⟩]) ∧
      Program.Run (probeConfig.elim (return []) probeContextRules) t₂ (.ok probedRules) ∧
      ∀ x ∈ t₃, x.request = .getLatestLedger ∨
        ∃ id, x.request = .readContextRule id ∧ id ∉ probedRules.map (·.id) := by
  obtain ⟨details, t₁, t', rfl, hdetails, hrest⟩ := Program.run_bind_ok.mp hrun
  obtain ⟨probedRules, t₂, t₃, rfl, hprobe, hlist⟩ := Program.run_bind_ok.mp hrest
  obtain ⟨reply, rfl, hreply⟩ := run_readIndexedRuleIds_ok hdetails
  have hprobed : ∀ r ∈ probedRules, chain.rule r.id = some r := by
    intro r hr
    cases probeConfig with
    | none =>
      rw [Except.ok.inj (Program.run_pure.mp hprobe).2] at hr
      exact absurd hr List.not_mem_nil
    | some probeConfig =>
      refine rule_of_probed (htruthful.mono ?_) hprobe hr
      simp
  have hlisted : ∀ id, Listed contractId [⟨.getContractDetailsFromIndexer contractId, reply⟩] id ↔
      id ∈ details.getD [] := by
    intro id
    unfold Listed
    simp only [List.mem_singleton]
    constructor
    · rintro ⟨ids, hsame, hid⟩
      have hids : (.ok (some ids) : Except JsError (Option (List UInt32))) = reply :=
        eq_of_heq (Exchange.mk.inj hsame).2
      rw [(hreply ids).mp hids.symm]
      exact hid
    · intro hid
      cases details with
      | none => exact absurd hid List.not_mem_nil
      | some ids => exact ⟨ids, by rw [(hreply ids).mpr rfl], hid⟩
  refine ⟨details.getD [], probedRules, _, t₂, t₃, rfl, ?_, hlisted, ⟨reply, rfl⟩, hprobe, ?_⟩
  · change Program.Run (if _ then _ else _) _ _ at hlist
    split_ifs at hlist with hempty hsome
    · -- nothing was found
      rw [Except.ok.inj (Program.run_pure.mp hlist).2, visibleRules]
      have hnone : sortBy compareIds (details.getD [] ++ probedRules.map (·.id)).dedup = [] :=
        List.isEmpty_iff.mp hempty
      rw [hnone]
      rfl
    · cases (Program.run_throw.mp hlist).2
    · obtain ⟨found, t₄, t₅, rfl, hcollect, hledger⟩ := Program.run_bind_ok.mp hlist
      obtain ⟨latestLedger, t₆, t₇, rfl, hread, hdone⟩ := Program.run_bind_ok.mp hledger
      obtain ⟨ledgerReply, rfl, hok⟩ := Program.run_await.mp hread
      obtain rfl : .ok latestLedger = ledgerReply := hok
      obtain ⟨rfl, hrules⟩ := Program.run_pure.mp hdone
      have hchain : List.Forall₂ (fun id rule => rule = chain.rule id)
          (discoveredRuleIds details probedRules) found := by
        refine (Program.run_collectAll hcollect).imp fun id rule hread => ?_
        obtain ⟨t', hinfix, hround⟩ := hread
        refine run_readDiscoveredRule_ok (htruthful.mono fun x hx => ?_) hprobed hround
        have hmem : x ∈ t₄ := hinfix.subset hx
        simp [hmem]
      have hmap : found = (discoveredRuleIds details probedRules).map chain.rule := by
        rw [← List.forall₂_eq_eq_eq, List.forall₂_map_right_iff]
        exact hchain.flip
      have hlatest : latestLedger = chain.latestLedger := htruthful.ledger latestLedger (by simp)
      rw [Except.ok.inj hrules, hmap, hlatest]
      rfl
  · change Program.Run (if _ then _ else _) _ _ at hlist
    split_ifs at hlist with hempty hsome
    · rw [(Program.run_pure.mp hlist).1]
      exact fun x hx => absurd hx List.not_mem_nil
    · cases (Program.run_throw.mp hlist).2
    · intro x hx
      obtain ⟨found, t₄, t₅, rfl, hcollect, hledger⟩ := Program.run_bind_ok.mp hlist
      obtain ⟨latestLedger, t₆, t₇, rfl, hread, hdone⟩ := Program.run_bind_ok.mp hledger
      obtain ⟨ledgerReply, rfl, -⟩ := Program.run_await.mp hread
      obtain ⟨rfl, -⟩ := Program.run_pure.mp hdone
      rcases List.mem_append.mp hx with hx | hx
      · have hexchanges := Program.exchanges_collectAll fun id (_ : id ∈
            discoveredRuleIds details probedRules) => readDiscoveredRule_exchanges probedRules id
        exact Or.inr (hexchanges _ _ hcollect x hx).1
      · rw [List.append_nil, List.mem_singleton] at hx
        rw [hx]
        exact Or.inl rfl

/-- A rule that a probe has read was not read in vain, and neither were that many ids in a row
before it; any other id of the range was read in vain or comes after such a row. -/
theorem probe_complete {probeConfig : ProbeRuleIds} {t₂ : History Environment}
    (htruthful : Truthful chain t₂) (hsub : t₂ ⊆ t)
    (hprobe : Program.Run (probeContextRules probeConfig) t₂ (.ok probedRules))
    (hothers : ∀ id, ReadFailed t id → ReadFailed t₂ id ∨ id ∉ probedRules.map (·.id)) :
    (∀ r ∈ probedRules, ¬ReadFailed t r.id ∧
      ¬StretchBelow (Missed t) (max probeConfig.missLimit 1) r.id.toNat) ∧
    ∀ id : UInt32, id.toNat ≤ probeConfig.lastId → id ∈ probedRules.map (·.id) ∨ ReadFailed t id ∨
      StretchBelow (Missed t) (max probeConfig.missLimit 1) id.toNat := by
  obtain ⟨probe, hhistory, rfl⟩ := run_probeContextRules_ok hprobe
  have hprobed : ∀ id r, ⟨.readContextRule id, .ok r⟩ ∈ t₂ →
      id ∈ probe.probedRules.map (·.id) := by
    intro id r hr
    have hid := chain.id_eq id r (htruthful.found id r hr)
    exact List.mem_map.mpr ⟨r, (hhistory.found r).mpr ⟨id, hr⟩, hid⟩
  have hmissed : ∀ n, Missed t₂ n → Missed t n := by
    intro n h id hid
    obtain ⟨e, he⟩ := h id hid
    exact ⟨e, hsub he⟩
  constructor
  · intro r hr
    obtain ⟨id, hread⟩ := (hhistory.found r).mp hr
    obtain ⟨id', reply, hrange, hsame⟩ := hhistory.reads _ hread
    rw [← (readExchange_inj.mp hsame).1] at hrange
    obtain ⟨hok, hnone⟩ := hhistory.once id r hread
    rw [missed_toNat] at hok
    rw [chain.id_eq id r (htruthful.found id r hread)]
    refine ⟨fun hfailed => ?_, fun hstretch => hnone (hstretch.mono (le_refl _) ?_)⟩
    · rcases hothers id hfailed with hfailed | hnew
      · exact hok hfailed
      · exact hnew (hprobed id r hread)
    · -- every id below was read by the probe, so that it was not read again
      intro k hk hmissed id' hid'
      have hbefore : ¬StretchBelow (Missed t₂) (max probeConfig.missLimit 1) k :=
        fun h => hnone (h.mono (by omega) fun _ _ h => h)
      rcases hothers id' (hmissed id' hid') with hfailed | hnew
      · exact hfailed
      · rcases hhistory.seen id' (by omega) with ⟨r', hr'⟩ | hmissed' | hstretch'
        · exact absurd (hprobed id' r' hr') hnew
        · exact hmissed' id' rfl
        · rw [hid'] at hstretch'
          exact absurd hstretch' hbefore
  · intro id hid
    rcases hhistory.seen id (by omega) with ⟨r, hr⟩ | hfailed | hstretch
    · exact Or.inl (hprobed id r hr)
    · exact Or.inr (Or.inl (missed_toNat.mp (hmissed _ hfailed)))
    · exact Or.inr (Or.inr (hstretch.mono (le_refl _) fun k _ h => hmissed k h))

/-- What a listing has found, in terms of everything it has read. -/
theorem run_listContextRules_found (htruthful : Truthful chain t)
    (hrun : Program.Run (listContextRules contractId probeConfig) t (.ok rules)) :
    ∃ (listed : List UInt32) (probedRules : List ContextRule),
      rules = visibleRules chain (listed ++ probedRules.map (·.id)) ∧
      (∀ id, Listed contractId t id ↔ id ∈ listed) ∧
      (probeConfig = none → probedRules = []) ∧
      ∀ config ∈ probeConfig,
        (∀ r ∈ probedRules, ¬ReadFailed t r.id ∧
          ¬StretchBelow (Missed t) (max config.missLimit 1) r.id.toNat) ∧
        ∀ id : UInt32, id.toNat ≤ config.lastId → id ∈ probedRules.map (·.id) ∨ ReadFailed t id ∨
          StretchBelow (Missed t) (max config.missLimit 1) id.toNat := by
  obtain ⟨listed, probedRules, t₁, t₂, t₃, rfl, hrules, hlisted, ⟨reply, rfl⟩, hprobe, hreads⟩ :=
    run_listContextRules_ok htruthful hrun
  have hprobeReads : ∀ x ∈ t₂, ∃ id, x.request = .readContextRule id := by
    intro x hx
    cases probeConfig with
    | none =>
      rw [(Program.run_pure.mp hprobe).1] at hx
      exact absurd hx List.not_mem_nil
    | some config =>
      obtain ⟨probe, hhistory, -⟩ := run_probeContextRules_ok hprobe
      obtain ⟨id, reply, -, rfl⟩ := hhistory.reads x hx
      exact ⟨id, rfl⟩
  refine ⟨listed, probedRules, hrules, fun id => ?_, fun hnone => ?_, fun config hconfig => ?_⟩
  · rw [← hlisted id]
    refine exists_congr fun ids => and_congr_left fun _ => ?_
    rw [List.mem_append, or_iff_left]
    -- the reads of rules and of the ledger are not the indexer's
    intro hrest
    rcases List.mem_append.mp hrest with hx | hx
    · obtain ⟨id', hid'⟩ := hprobeReads _ hx
      cases hid'
    · rcases hreads _ hx with hledger | ⟨id', hid', -⟩
      · cases hledger
      · cases hid'
  · rw [hnone] at hprobe
    exact Except.ok.inj (Program.run_pure.mp hprobe).2
  · rw [Option.mem_def] at hconfig
    rw [hconfig] at hprobe
    refine probe_complete (htruthful.mono ?_) (by simp) hprobe fun id hfailed => ?_
    · simp
    · obtain ⟨e, he⟩ := hfailed
      rcases List.mem_append.mp he with hx | hx
      · have hrequest := congrArg Exchange.request (List.mem_singleton.mp hx)
        cases hrequest
      rcases List.mem_append.mp hx with hx | hx
      · exact Or.inl ⟨e, hx⟩
      · rcases hreads _ hx with hledger | ⟨id', hid', hnew⟩
        · cases hledger
        · rw [← Request.readContextRule.inj hid'] at hnew
          exact Or.inr hnew

end listing

/-! ## Completeness -/

/-- A probe can find a rule: its id is in the range of the probe, and no `maxConsecutiveMisses` ids
in a row before it are without a rule. -/
def Discoverable (chain : ChainState) (probeConfig : ProbeRuleIds) (id : UInt32) : Prop :=
  id.toNat ≤ probeConfig.lastId ∧
    ¬StretchBelow (fun k => chain.ruleAt k = none) probeConfig.missLimit id.toNat

/-- A listing drops no rule: the rules are in the order of their ids, every active rule that the
indexer has listed or a probe can find is among them, and so is every active rule for which a read
has failed with another error than that it is missing. -/
structure NothingDropped (chain : ChainState) (contractId : String)
    (probeConfig : Option ProbeRuleIds) (t : History Environment) (rules : List ContextRule) :
    Prop where
  increasing : rules.Pairwise fun a b => a.id < b.id
  complete : ∀ r, chain.rule r.id = some r → r.activeAt chain.latestLedger = true →
    (Listed contractId t r.id ∨ ∃ config ∈ probeConfig, Discoverable chain config r.id) → r ∈ rules
  no_error_drops : ∀ r e, chain.rule r.id = some r → r.activeAt chain.latestLedger = true →
    ⟨.readContextRule r.id, .error e⟩ ∈ t → isMissingContextRuleError e = false → r ∈ rules

/-- Rules that are shown have increasing ids. -/
theorem visibleRules_increasing (chain : ChainState) (ids : List UInt32) :
    (visibleRules chain ids).Pairwise fun a b => a.id < b.id := by
  have hdistinct := rules_pairwise chain
    ((@sortBy_perm _ compareIds ids.dedup).nodup_iff.mpr (List.nodup_dedup ids))
  refine (sortBy_strict compareRules_lawfulAt (hdistinct.filter _)).imp fun {a b} hlt => ?_
  rw [UInt32.lt_iff_toNat_lt]
  unfold compareRules compareIds at hlt
  omega

/-- Whenever a listing returns and its replies are true, it drops no rule exactly if, for every
active rule that the indexer has not listed, no read of it has failed and, where a probe can find
it, no `maxConsecutiveMisses` reads of ids in a row before it have failed. -/
theorem listContextRules_complete_iff {chain : ChainState} {contractId : String}
    {probeConfig : Option ProbeRuleIds} {t : History Environment} {rules : List ContextRule}
    (htruthful : Truthful chain t)
    (hrun : Program.Run (listContextRules contractId probeConfig) t (.ok rules)) :
    NothingDropped chain contractId probeConfig t rules ↔
      ∀ r, chain.rule r.id = some r → r.activeAt chain.latestLedger = true →
        ¬Listed contractId t r.id → ¬ReadFailed t r.id ∧
          ∀ config ∈ probeConfig, Discoverable chain config r.id →
            ¬StretchBelow (Missed t) config.missLimit r.id.toNat := by
  obtain ⟨listed, probedRules, hrules, hlisted, hnoProbe, hprobe⟩ :=
    run_listContextRules_found htruthful hrun
  -- a rule is returned where the indexer has listed it or the probe has read it
  have hmem : ∀ r, chain.rule r.id = some r → r.activeAt chain.latestLedger = true →
      (r ∈ rules ↔ Listed contractId t r.id ∨ r.id ∈ probedRules.map (·.id)) := by
    intro r hrule hactive
    rw [hrules, mem_visibleRules, hlisted, ← List.mem_append]
    exact ⟨fun h => h.1, fun h => ⟨h, hrule, hactive⟩⟩
  have hread : ∀ r : ContextRule, r.id ∈ probedRules.map (·.id) → ∃ config ∈ probeConfig,
      ¬ReadFailed t r.id ∧
        ¬StretchBelow (Missed t) (max config.missLimit 1) r.id.toNat := by
    intro r hr
    cases hconfig : probeConfig with
    | none =>
      rw [hnoProbe hconfig] at hr
      exact absurd hr List.not_mem_nil
    | some config =>
      obtain ⟨r', hr', hid⟩ := List.mem_map.mp hr
      refine ⟨config, rfl, ?_⟩
      rw [← hid]
      exact (hprobe config hconfig).1 r' hr'
  -- only a probe without a limit has no stretch to give up after
  have hlimit : ∀ config : ProbeRuleIds, ∀ r : ContextRule, Discoverable chain config r.id →
      max config.missLimit 1 = config.missLimit := by
    intro config r hdiscoverable
    have hpos : config.missLimit ≠ 0 := fun hzero =>
      hdiscoverable.2 ⟨0, by omega, fun k _ hk => by omega⟩
    omega
  constructor
  · intro hcomplete r hrule hactive hunlisted
    constructor
    · rintro ⟨e, he⟩
      have hother : isMissingContextRuleError e = false := by
        by_contra hmissing
        rw [htruthful.missing _ e he (by simpa using hmissing)] at hrule
        cases hrule
      have hr := hcomplete.no_error_drops r e hrule hactive he hother
      obtain ⟨config, -, hok, -⟩ :=
        hread r (((hmem r hrule hactive).mp hr).resolve_left hunlisted)
      exact hok ⟨e, he⟩
    · intro config hconfig hdiscoverable
      have hr := hcomplete.complete r hrule hactive (Or.inr ⟨config, hconfig, hdiscoverable⟩)
      obtain ⟨config', hconfig', -, hnone⟩ :=
        hread r (((hmem r hrule hactive).mp hr).resolve_left hunlisted)
      rw [Option.mem_unique hconfig' hconfig, hlimit config r hdiscoverable] at hnone
      exact hnone
  · intro hcondition
    refine ⟨hrules ▸ visibleRules_increasing chain _, fun r hrule hactive hfound => ?_,
      fun r e hrule hactive he _ => ?_⟩
    · rw [hmem r hrule hactive]
      by_cases hunlisted : Listed contractId t r.id
      · exact Or.inl hunlisted
      · obtain ⟨config, hconfig, hdiscoverable⟩ := hfound.resolve_left hunlisted
        obtain ⟨hok, hnone⟩ := hcondition r hrule hactive hunlisted
        have hnone' := hnone config hconfig hdiscoverable
        rw [← hlimit config r hdiscoverable] at hnone'
        rcases (hprobe config hconfig).2 r.id hdiscoverable.1 with hr | hfailed | hstretch
        · exact Or.inr hr
        · exact absurd hfailed hok
        · exact absurd hstretch hnone'
    · by_cases hunlisted : Listed contractId t r.id
      · exact (hmem r hrule hactive).mpr (Or.inl hunlisted)
      · exact absurd ⟨e, he⟩ (hcondition r hrule hactive hunlisted).1

/-- A chain with a rule for every context and one for a token. -/
def sampleTokenChain : ChainState :=
  { rule := fun id =>
      if id = 0 then some { id := 0, contextType := .default, signers := [samplePasskeySigner]
                            policies := [], validUntil := none }
      else if id = 1 then some { id := 1, contextType := .callContract (sampleContractId 12)
                                 signers := [samplePasskeySigner], policies := []
                                 validUntil := none }
      else none
    id_eq := by
      intro id r h
      split_ifs at h with hzero hone
      · rw [← Option.some.inj h, hzero]
      · rw [← Option.some.inj h, hone]
    latestLedger := 50 }

/-- An environment without an indexer that answers from the sample chain; reading the rule `failing`
does not get through. -/
def sampleTokenReplies (failing : UInt32) : SteadyReplies :=
  { sampleReplies with
    details := .ok none
    rule := fun id =>
      if id = failing then .error (JsError.plain "Failed to fetch context rule: timeout")
      else (sampleTokenChain.rule id).elim (.error (JsError.plain "ContextRuleNotFound")) .ok }

theorem sampleTokenReplies_truthful (failing : UInt32) {α ε : Type}
    (p : Program Environment ε α) :
    Truthful sampleTokenChain (Program.transcript (sampleTokenReplies failing).reply p) where
  found id r h := by
    have hreply : (.ok r : Except JsError ContextRule) = (sampleTokenReplies failing).rule id :=
      Program.mem_transcript h
    unfold sampleTokenReplies at hreply
    dsimp only at hreply
    split_ifs at hreply
    cases hrule : sampleTokenChain.rule id with
    | none => rw [hrule] at hreply; cases hreply
    | some r' => rw [hrule] at hreply; rw [Except.ok.inj hreply]
  missing id e h hmissing := by
    have hreply : (.error e : Except JsError ContextRule) = (sampleTokenReplies failing).rule id :=
      Program.mem_transcript h
    unfold sampleTokenReplies at hreply
    dsimp only at hreply
    split_ifs at hreply with hfailing
    · have htimeout : isMissingContextRuleError
          (JsError.plain "Failed to fetch context rule: timeout") = false := by decide +kernel
      rw [Except.error.inj hreply, htimeout] at hmissing
      cases hmissing
    · cases hrule : sampleTokenChain.rule id with
      | none => rfl
      | some r' => rw [hrule] at hreply; cases hreply
  ledger ledger h := by
    have hreply : (.ok ledger : Except JsError UInt32) = .ok 50 := Program.mem_transcript h
    exact Except.ok.inj hreply

/-- A probe that cannot read the rule 7, which does not exist, finds both rules. -/
theorem listContextRules_complete_iff_sample :
    ∃ (t : History Environment) (rules : List ContextRule),
      Program.Run (listContextRules "" (some {})) t (.ok rules) ∧ rules.map (·.id) = [0, 1] ∧
        NothingDropped sampleTokenChain "" (some {}) t rules := by
  have hids : (Program.answer (sampleTokenReplies 7).reply
      (listContextRules "" (some {}))).toOption.map (List.map (·.id)) = some [0, 1] := by
    decide
  obtain ⟨rules, hanswer, hrules⟩ := Option.map_eq_some_iff.mp hids
  have hrun := Program.run_transcript (sampleTokenReplies 7).reply (listContextRules "" (some {}))
  rw [toOption_eq_some.mp hanswer] at hrun
  refine ⟨_, rules, hrun, hrules, ?_⟩
  refine (listContextRules_complete_iff (sampleTokenReplies_truthful 7 _) hrun).mpr
    fun r hrule _ _ => ?_
  have hid : r.id = 0 ∨ r.id = 1 := by
    unfold sampleTokenChain at hrule
    dsimp only at hrule
    split_ifs at hrule with hzero hone
    · exact Or.inl hzero
    · exact Or.inr hone
  constructor
  · intro ⟨e, he⟩
    have hreply : (.error e : Except JsError ContextRule) = (sampleTokenReplies 7).rule r.id :=
      Program.mem_transcript he
    rcases hid with hid | hid
    all_goals
      rw [hid] at hreply
      cases hreply
  · intro config hconfig _ ⟨j, hj, _⟩
    rw [← Option.some.inj hconfig] at hj
    have hlimit : ({} : ProbeRuleIds).missLimit = 3 := rfl
    have hsmall : r.id.toNat ≤ 1 := by
      rcases hid with hid | hid
      all_goals
        rw [hid]
        decide
    omega

/-- A read that does not get through while the probe asks for the rule of the token drops that rule
from the list. -/
theorem listContextRules_drops_rule :
    ¬∀ (chain : ChainState) (contractId : String) (probeConfig : Option ProbeRuleIds)
        (t : History Environment) (rules : List ContextRule), Truthful chain t →
        Program.Run (listContextRules contractId probeConfig) t (.ok rules) →
        NothingDropped chain contractId probeConfig t rules := by
  intro hall
  have hids : (Program.answer (sampleTokenReplies 1).reply
      (listContextRules "" (some {}))).toOption.map (List.map (·.id)) = some [0] := by
    decide
  obtain ⟨rules, hanswer, hrules⟩ := Option.map_eq_some_iff.mp hids
  have hrun := Program.run_transcript (sampleTokenReplies 1).reply (listContextRules "" (some {}))
  rw [toOption_eq_some.mp hanswer] at hrun
  have hcomplete := (hall _ _ _ _ _ (sampleTokenReplies_truthful 1 _) hrun).complete
    { id := 1, contextType := .callContract (sampleContractId 12), signers := [samplePasskeySigner]
      policies := [], validUntil := none } rfl rfl
  have hdiscoverable : Discoverable sampleTokenChain {} 1 :=
    ⟨by decide, fun ⟨j, hj, _⟩ => by
      have hlimit : ({} : ProbeRuleIds).missLimit = 3 := rfl
      have hone : (1 : UInt32).toNat = 1 := rfl
      omega⟩
  have hmem := List.mem_map_of_mem (f := (·.id)) (hcomplete (Or.inr ⟨{}, rfl, hdiscoverable⟩))
  rw [hrules] at hmem
  revert hmem
  decide

end SmartAccountKit
