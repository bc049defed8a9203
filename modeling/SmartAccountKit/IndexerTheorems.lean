import SmartAccountKit.Indexer
import Mathlib.Data.List.Dedup

/-!
# Complete lookups

What the indexer's answer says when a lookup of wallet candidates is complete,
and which credential a lookup asks for.
-/

namespace SmartAccountKit
open Lib

/-! ## Lists of parsed entries -/

section parsed

variable {α β : Type} {f : α → Option β} {xs : List α} {ys : List β}

theorem filterMap_of_forall₂ (h : List.Forall₂ (fun x y => f x = some y) xs ys) :
    xs.filterMap f = ys := by
  induction h with
  | nil => rfl
  | cons hx _ ih => rw [List.filterMap_cons, hx, ih]

theorem forall₂_filterMap (h : ∀ x ∈ xs, (f x).isSome = true) :
    List.Forall₂ (fun x y => f x = some y) xs (xs.filterMap f) := by
  induction xs with
  | nil => exact List.Forall₂.nil
  | cons x xs ih =>
    have hx : f x = some ((f x).get (h x List.mem_cons_self)) := (Option.some_get _).symm
    rw [List.filterMap_cons, hx]
    exact List.Forall₂.cons hx (ih fun y hy => h y (List.mem_cons_of_mem x hy))

end parsed

/-! ## Entries -/

/-- A positive safe integer, as a number or as the text of its digits. -/
def IsPositiveInteger (value : Option JsonValue) (n : ℕ) : Prop :=
  0 < n ∧ n < 2 ^ 53 ∧ ∃ text : String, textNumber text = .ofNat n ∧
    (value = some (.number text.toList) ∨
      value = some (.string text) ∧ isPositiveDecimal text = true)

/-- A text that denotes a hash of 32 bytes. -/
def IsHash (lower : LowerCase) (value : Option JsonValue) (hash : String) : Prop :=
  ∃ text, value = some (.string text) ∧ hash = stripHexPrefix (lower.text text) ∧ IsHashHex hash

/-- An entry has all the facts of a candidate. -/
structure Yields (lower : LowerCase) (entry : JsonValue) (candidate : IndexedWalletCandidate) :
    Prop where
  contract : entry.field "contract_id" = some (.string candidate.contractId)
  valid : isValidContract candidate.contractId = true
  birth : IsHash lower (entry.field "birth_wasm_hash") candidate.birthWasmHash
  transaction : IsHash lower (entry.field "creation_transaction_hash")
    candidate.creationTransactionHash
  ledger : ∃ n, candidate.creationLedger = .ofNat n ∧
    IsPositiveInteger (entry.field "creation_ledger") n
  wasm : IsHash lower (entry.field "current_wasm_hash") candidate.currentWasmHash
  derived : entry.field "derived_address" = some (.bool candidate.derivedAddress)
  collision : entry.field "collision" = some (.bool candidate.collision)
  complete : entry.field "incomplete" = some (.bool false)

theorem finite_natCast_of_safe {value : ℚ} (hsafe : (JsNumber.finite value).isSafeInteger = true)
    (hpos : (JsNumber.finite value).lt (.ofNat 1) = false) :
    ∃ n : ℕ, JsNumber.finite value = .ofNat n ∧ 0 < n ∧ n < 2 ^ 53 := by
  simp only [JsNumber.isSafeInteger, decide_eq_true_eq] at hsafe
  obtain ⟨hden, hsmall⟩ := hsafe
  have hvalue : (value.num : ℚ) = value := (Rat.den_eq_one_iff value).mp hden
  have hle : (1 : ℚ) ≤ value := by
    have : ¬value < ((1 : ℕ) : ℚ) := of_decide_eq_false hpos
    simpa using this
  have hnum : 1 ≤ value.num := by
    rw [← hvalue] at hle
    exact_mod_cast hle
  refine ⟨value.num.toNat, ?_, by omega, by omega⟩
  rw [JsNumber.ofNat, JsNumber.finite.injEq, ← hvalue]
  have : ((value.num.toNat : ℤ) : ℚ) = value.num := by rw [Int.toNat_of_nonneg (by omega)]
  exact_mod_cast this.symm

theorem isSafeInteger_ofNat {n : ℕ} (h : n < 2 ^ 53) : (JsNumber.ofNat n).isSafeInteger = true := by
  have hden : ((n : ℚ)).den = 1 := rfl
  have hnum : ((n : ℚ)).num.natAbs ≤ 2 ^ 53 - 1 := by
    rw [Rat.num_natCast, Int.natAbs_natCast]
    omega
  exact decide_eq_true ⟨hden, hnum⟩

theorem ofNat_lt_ofNat {m n : ℕ} : (JsNumber.ofNat m).lt (.ofNat n) = decide (m < n) := by
  have h : ((m : ℚ) < n) ↔ m < n := Nat.cast_lt
  exact decide_eq_decide.mpr h

theorem normalizePositiveInteger_eq_some {value : Option JsonValue} {x : JsNumber} :
    normalizePositiveInteger value = some x ↔ ∃ n, x = .ofNat n ∧ IsPositiveInteger value n := by
  constructor
  · intro h
    unfold normalizePositiveInteger at h
    split at h
    · rename_i text
      dsimp only at h
      split_ifs at h with hnumber
      rw [Bool.and_eq_true, Bool.not_eq_true'] at hnumber
      obtain rfl := Option.some.inj h
      cases hvalue : textNumber (String.ofList text) with
      | finite value =>
        rw [hvalue] at hnumber
        obtain ⟨n, hn, hpos, hlt⟩ := finite_natCast_of_safe hnumber.1 hnumber.2
        exact ⟨n, hn, hpos, hlt, String.ofList text, hvalue.trans hn,
          Or.inl (by rw [String.toList_ofList])⟩
      | infinite negative =>
        rw [hvalue] at hnumber
        exact absurd hnumber.1 Bool.false_ne_true
      | nan =>
        rw [hvalue] at hnumber
        exact absurd hnumber.1 Bool.false_ne_true
    · rename_i text
      split_ifs at h with hdecimal
      dsimp only at h
      split_ifs at h with hsafe
      obtain rfl := Option.some.inj h
      have hdigits := hdecimal
      unfold isPositiveDecimal at hdigits
      split at hdigits
      · exact absurd hdigits Bool.false_ne_true
      · rename_i c cs hchars
        simp only [Bool.and_eq_true, decide_eq_true_eq, List.all_eq_true] at hdigits
        obtain ⟨⟨hfirst, hnonzero⟩, hrest⟩ := hdigits
        have hall : ∀ d ∈ c :: cs, d.isDigit = true := by
          intro d hd
          rcases List.mem_cons.mp hd with rfl | hd
          · exact hfirst
          · exact hrest d hd
        have htext : String.ofList (c :: cs) = text := by rw [← hchars, String.ofList_toList]
        rw [← htext] at hsafe
        obtain ⟨n, hn, hpos, hlt⟩ := textNumber_digits_safe hnonzero hall hsafe
        rw [htext] at hn
        exact ⟨n, hn, hpos, hlt, text, hn, Or.inr ⟨rfl, hdecimal⟩⟩
    · cases h
  · rintro ⟨n, rfl, hpos, hlt, text, htext, rfl | ⟨rfl, hdecimal⟩⟩
    · have hlow : (JsNumber.ofNat n).lt (.ofNat 1) = false := by
        rw [ofNat_lt_ofNat]
        exact decide_eq_false (by omega)
      simp only [normalizePositiveInteger, String.ofList_toList, htext, isSafeInteger_ofNat hlt, hlow]
      rfl
    · simp only [normalizePositiveInteger, hdecimal, htext, isSafeInteger_ofNat hlt, if_true]

theorem IsPositiveInteger.unique {value : Option JsonValue} {m n : ℕ} (hm : IsPositiveInteger value m)
    (hn : IsPositiveInteger value n) : m = n := by
  have hsome := (normalizePositiveInteger_eq_some.mpr ⟨m, rfl, hm⟩).symm.trans
    (normalizePositiveInteger_eq_some.mpr ⟨n, rfl, hn⟩)
  have hvalue : (m : ℚ) = n := JsNumber.finite.inj (Option.some.inj hsome)
  exact_mod_cast hvalue

theorem normalizeHash_eq_some {lower : LowerCase} {value : Option JsonValue} {hash : String} :
    normalizeHash lower value = some hash ↔ IsHash lower value hash := by
  simp only [normalizeHash, Option.bind_eq_bind, Option.bind_eq_some_iff, IsHash]
  constructor
  · rintro ⟨text, ⟨json, hjson, htext⟩, h⟩
    split_ifs at h with hhex
    obtain rfl := Option.some.inj h
    cases json with
    | string s =>
      obtain rfl := Option.some.inj htext
      exact ⟨_, hjson, rfl, hhex⟩
    | _ => cases htext
  · rintro ⟨text, hvalue, rfl, hhex⟩
    exact ⟨text, ⟨_, hvalue, rfl⟩, if_pos hhex⟩

theorem parseWalletCandidate_eq_some {lower : LowerCase} {contract : IndexedContractSummary}
    {candidate : IndexedWalletCandidate} :
    parseWalletCandidate lower contract = some candidate ↔
      Yields lower contract.entry candidate := by
  constructor
  · intro h
    unfold parseWalletCandidate at h
    dsimp only at h
    split at h
    · rename_i hcontract hbirth htransaction hledger hwasm hderived hcollision hcomplete
      split_ifs at h with hvalid
      obtain rfl := Option.some.inj h
      exact {
        contract := hcontract
        valid := hvalid
        birth := normalizeHash_eq_some.mp hbirth
        transaction := normalizeHash_eq_some.mp htransaction
        ledger := normalizePositiveInteger_eq_some.mp hledger
        wasm := normalizeHash_eq_some.mp hwasm
        derived := hderived
        collision := hcollision
        complete := hcomplete }
    · cases h
  · intro h
    unfold parseWalletCandidate
    simp only [h.contract, normalizeHash_eq_some.mpr h.birth,
      normalizeHash_eq_some.mpr h.transaction, normalizePositiveInteger_eq_some.mpr h.ledger,
      normalizeHash_eq_some.mpr h.wasm, h.derived, h.collision, h.complete, h.valid, if_true]

/-! ## Answers -/

/-- The candidates of an answer do not contradict each other, and all were created by the ledger
that the answer covers. -/
structure Consistent (indexedThrough : ℕ) (candidates : List IndexedWalletCandidate) : Prop where
  distinct : (candidates.map (·.contractId)).Nodup
  indexed : ∀ c ∈ candidates, ∃ n, c.creationLedger = .ofNat n ∧ n ≤ indexedThrough
  collisions : ∀ c ∈ candidates, c.collision = true ↔
    (∃ d ∈ candidates, d.derivedAddress = true) ∧ ∃ d ∈ candidates, d.derivedAddress = false

/-- An answer says that it is complete, and every entry of it yields a candidate. -/
structure CompleteAnswer (lower : LowerCase) (response : JsonValue) (contracts : List JsonValue) :
    Prop where
  complete : response.field "complete" = some (.bool true)
  schema : (response.field "schema").bind JsonValue.number? = some (.ofNat 2)
  reasons : response.field "incompleteReasons" = none
  count : (response.field "count").bind JsonValue.toNumber? = some (.ofNat contracts.length)
  candidates : ∃ ledger candidates,
    IsPositiveInteger (response.field "indexed_through_ledger") ledger ∧
      List.Forall₂ (Yields lower) contracts candidates ∧ Consistent ledger candidates

/-- What is known of an answer that passed its checks. -/
structure Checked (response : JsonValue) (contracts : List JsonValue)
    (result : CredentialLookupResponse) : Prop where
  listed : response.field "contracts" = some (.array contracts)
  entries : result.contracts.map (·.entry) = contracts
  complete : response.field "complete" = some (.bool result.complete)
  schema : (response.field "schema").bind JsonValue.number? = some (.ofNat 2)
  ledger : ∃ n, result.indexed_through_ledger = .ofNat n ∧
    IsPositiveInteger (response.field "indexed_through_ledger") n
  count : (response.field "count").bind JsonValue.toNumber? = some (.ofNat contracts.length)
  counted : result.count = .ofNat contracts.length
  safe : result.count.isSafeInteger = true
  reasons : result.complete = true → response.field "incompleteReasons" = none

theorem normalizeContractSummary_entry {entry : JsonValue} {summary : IndexedContractSummary}
    (h : normalizeContractSummary entry = .ok summary) : summary.entry = entry := by
  simp only [normalizeContractSummary, except_bind_eq_ok, except_pure_eq_ok] at h
  obtain ⟨_, -, _, -, _, -, _, -, _, -, _, -, rfl⟩ := h
  rfl

theorem fieldNumber_eq_ofNat {value : Option JsonValue} {n : ℕ}
    (h : fieldNumber value = .ok (.ofNat n)) :
    value.bind JsonValue.toNumber? = some (.ofNat n) := by
  cases value with
  | none =>
    injection h with h
    cases h
  | some json =>
    rw [fieldNumber] at h
    split at h
    · rename_i x hx
      rw [← Except.ok.inj h, Option.bind_some, hx]
    · cases h

theorem checked_of_readCredentialResponse {lower : LowerCase} {normalizedId : String}
    {response : JsonValue} {result : CredentialLookupResponse}
    (h : readCredentialResponse lower normalizedId response = .ok result) :
    ∃ contracts, Checked response contracts result := by
  unfold readCredentialResponse at h
  obtain ⟨-, h⟩ := throwIf_bind_eq_ok.mp h
  obtain ⟨responseCount, hcount, h⟩ := except_bind_eq_ok.mp h
  split at h
  · rename_i indexedThroughLedger complete credentialId contracts hledger hcomplete _ hcontracts
    obtain ⟨hvalid, h⟩ := throwIf_bind_eq_ok.mp h
    simp only [not_or, not_not] at hvalid
    obtain ⟨hschema, -, hsafe, -, hlength, hreasons, -⟩ := hvalid
    obtain ⟨summaries, hsummaries, h⟩ := except_bind_eq_ok.mp h
    rw [except_pure_eq_ok] at h
    subst h
    have hentries : summaries.map (·.entry) = contracts := by
      have hsame : List.Forall₂ (· = ·) (summaries.map (·.entry)) contracts := by
        rw [List.forall₂_map_left_iff]
        exact (mapM_eq_ok.mp hsummaries).flip.imp fun _ _ => normalizeContractSummary_entry
      exact List.forall₂_eq_eq_eq ▸ hsame
    subst hlength
    exact ⟨contracts, {
      listed := hcontracts
      entries := hentries
      complete := hcomplete
      schema := hschema
      ledger := normalizePositiveInteger_eq_some.mp hledger
      count := fieldNumber_eq_ofNat hcount
      counted := rfl
      safe := by simpa using hsafe
      reasons := by
        intro hc
        dsimp only at hc
        subst hc
        simpa [hasValidLookupIncompleteReasons] using hreasons }⟩
  · cases h

/-! ## Complete lookups -/

section complete

variable {lower : LowerCase} {response : JsonValue} {contracts : List JsonValue}
  {result : CredentialLookupResponse} {ledger : ℕ} {candidates : List IndexedWalletCandidate}

/-- The checks that a lookup makes between its candidates. -/
theorem consistent_iff :
    ((candidates.map (·.contractId)).dedup.length = candidates.length ∧
      (candidates.all fun candidate =>
        !(JsNumber.ofNat ledger).lt candidate.creationLedger &&
          candidate.collision ==
            (candidates.any (·.derivedAddress) && candidates.any (!·.derivedAddress))) = true) ∧
      (∀ c ∈ candidates, ∃ n, c.creationLedger = .ofNat n) ↔
    Consistent ledger candidates := by
  have hdistinct : (candidates.map (·.contractId)).dedup.length = candidates.length ↔
      (candidates.map (·.contractId)).Nodup := by
    rw [← List.dedup_eq_self, ← @List.length_map _ _ candidates (·.contractId)]
    exact ⟨(List.dedup_sublist _).eq_of_length, fun h => by rw [h]⟩
  have hexpected : (candidates.any (·.derivedAddress) && candidates.any (!·.derivedAddress)) = true ↔
      (∃ d ∈ candidates, d.derivedAddress = true) ∧
        ∃ d ∈ candidates, d.derivedAddress = false := by
    simp only [Bool.and_eq_true, List.any_eq_true, Bool.not_eq_true']
  simp only [List.all_eq_true, Bool.and_eq_true, beq_iff_eq, Bool.not_eq_true']
  constructor
  · rintro ⟨⟨hids, hall⟩, hledgers⟩
    refine ⟨hdistinct.mp hids, fun c hc => ?_, fun c hc => ?_⟩
    · obtain ⟨n, hn⟩ := hledgers c hc
      have hlow := (hall c hc).1
      rw [hn, ofNat_lt_ofNat] at hlow
      have := of_decide_eq_false hlow
      exact ⟨n, hn, by omega⟩
    · rw [(hall c hc).2]
      exact hexpected
  · intro h
    refine ⟨⟨hdistinct.mpr h.distinct, fun c hc => ⟨?_, ?_⟩⟩, fun c hc => ?_⟩
    · obtain ⟨n, hn, hle⟩ := h.indexed c hc
      rw [hn, ofNat_lt_ofNat]
      exact decide_eq_false (by omega)
    · rw [Bool.eq_iff_iff]
      exact (h.collisions c hc).trans hexpected.symm
    · obtain ⟨n, hn, -⟩ := h.indexed c hc
      exact ⟨n, hn⟩

/-- The candidates of a checked answer are its entries, if every entry yields one. -/
theorem candidates_iff (hchecked : Checked response contracts result) :
    (result.contracts.filterMap (parseWalletCandidate lower)).length = result.contracts.length ↔
      List.Forall₂ (Yields lower) contracts
        (result.contracts.filterMap (parseWalletCandidate lower)) := by
  rw [← hchecked.entries, List.forall₂_map_left_iff]
  constructor
  · intro h
    rw [List.filterMap_length_eq_length] at h
    exact (forall₂_filterMap h).imp fun _ _ => parseWalletCandidate_eq_some.mp
  · exact fun h => h.length_eq.symm

theorem walletCandidateLookup_complete (hchecked : Checked response contracts result) :
    ((walletCandidateLookup lower result).complete = true ↔
      CompleteAnswer lower response contracts) ∧
    ((walletCandidateLookup lower result).complete = true →
      List.Forall₂ (Yields lower) contracts (walletCandidateLookup lower result).candidates) := by
  obtain ⟨ledger, hledger, hpositive⟩ := hchecked.ledger
  have hcounted : result.contracts.length = contracts.length := by
    rw [← hchecked.entries, List.length_map]
  have hsafe : (JsNumber.ofNat contracts.length).isSafeInteger = true := by
    rw [← hchecked.counted]
    exact hchecked.safe
  have hlow : (JsNumber.ofNat contracts.length).lt (.ofNat 0) = false := by
    rw [ofNat_lt_ofNat]
    exact decide_eq_false (by omega)
  have hsplit : (walletCandidateLookup lower result).complete = true ↔
      result.complete = true ∧
        (walletCandidateLookup lower result).candidates.length = result.contracts.length ∧
        ((walletCandidateLookup lower result).candidates.map (·.contractId)).dedup.length =
          (walletCandidateLookup lower result).candidates.length ∧
        ((walletCandidateLookup lower result).candidates.all fun candidate =>
          !(JsNumber.ofNat ledger).lt candidate.creationLedger &&
            candidate.collision ==
              ((walletCandidateLookup lower result).candidates.any (·.derivedAddress) &&
                (walletCandidateLookup lower result).candidates.any (!·.derivedAddress))) = true := by
    simp only [walletCandidateLookup, Bool.and_eq_true, hchecked.counted, hsafe, hlow, hcounted,
      decide_eq_true_eq, hledger, Bool.not_false, true_and, and_assoc]
  have hledgers : ∀ c ∈ (walletCandidateLookup lower result).candidates,
      ∃ n, c.creationLedger = .ofNat n := by
    intro c hc
    obtain ⟨contract, -, hparse⟩ := List.mem_filterMap.mp hc
    obtain ⟨n, hn, -⟩ := (parseWalletCandidate_eq_some.mp hparse).ledger
    exact ⟨n, hn⟩
  refine ⟨?_, fun h => (candidates_iff hchecked).mp (hsplit.mp h).2.1⟩
  rw [hsplit]
  constructor
  · rintro ⟨hcomplete, hlength, hchecks⟩
    exact {
      complete := hcomplete ▸ hchecked.complete
      schema := hchecked.schema
      reasons := hchecked.reasons hcomplete
      count := hchecked.count
      candidates := ⟨ledger, _, hpositive, (candidates_iff hchecked).mp hlength,
        consistent_iff.mp ⟨hchecks, hledgers⟩⟩ }
  · intro h
    obtain ⟨ledger', candidates, hpositive', hyields, hconsistent⟩ := h.candidates
    have hsame : ledger' = ledger := hpositive'.unique hpositive
    have hcandidates : (walletCandidateLookup lower result).candidates = candidates := by
      apply filterMap_of_forall₂
      rw [← hchecked.entries, List.forall₂_map_left_iff] at hyields
      exact hyields.imp fun _ _ => parseWalletCandidate_eq_some.mpr
    have hcomplete : result.complete = true := by
      have := hchecked.complete.symm.trans h.complete
      simpa using this
    subst hsame hcandidates
    exact ⟨hcomplete, (candidates_iff hchecked).mpr hyields,
      (consistent_iff.mpr hconsistent).1⟩

end complete

/-! ## Runs -/

section runs

variable {lower : LowerCase} {client : IndexerClient} {t : History IndexerServer}

/-- A lookup makes one request. -/
theorem run_lookupByCredentialId {credentialId : String}
    {x : Except IndexerFailure CredentialLookupResponse} :
    Program.Run (client.lookupByCredentialId lower credentialId) t x ↔
      ∃ reply, t = [⟨client.request
          (API_PATH_LOOKUP ++ "/" ++ normalizedCredentialId lower credentialId), reply⟩] ∧
        x = readIndexerReply reply >>=
          readCredentialResponse lower (normalizedCredentialId lower credentialId) := by
  refine Program.run_bind_ofExcept.trans ⟨?_, ?_⟩
  · rintro ⟨y, hfetch, rfl⟩
    obtain ⟨reply, ht, rfl⟩ := Program.run_await.mp hfetch
    exact ⟨reply, ht, rfl⟩
  · rintro ⟨reply, ht, rfl⟩
    exact ⟨_, Program.run_await.mpr ⟨reply, ht, rfl⟩, rfl⟩

theorem run_lookupWalletCandidates {credentialId : String}
    {x : Except IndexerFailure WalletCandidateLookup} :
    Program.Run (client.lookupWalletCandidates lower credentialId) t x ↔
      ∃ y, Program.Run (client.lookupByCredentialId lower
          (normalizedCredentialId lower credentialId)) t y ∧
        x = y >>= fun response => .ok (walletCandidateLookup lower response) :=
  Program.run_bind_ofExcept

/-- A lookup of wallet candidates fails or returns a result. A result is complete exactly when the
answer is, and its candidates are then the entries of the answer, in their order. -/
theorem lookupWalletCandidates_complete {credentialId : String}
    {x : Except IndexerFailure WalletCandidateLookup}
    (hrun : Program.Run (client.lookupWalletCandidates lower credentialId) t x) :
    ∃ request reply, t = [⟨request, reply⟩] ∧
      ((∃ e, x = .error e) ∨ ∃ lookup response contracts,
        x = .ok lookup ∧ reply = .answered response ∧
          response.field "contracts" = some (.array contracts) ∧
          (lookup.complete = true ↔ CompleteAnswer lower response contracts) ∧
          (lookup.complete = true →
            List.Forall₂ (Yields lower) contracts lookup.candidates)) := by
  obtain ⟨y, hlookup, rfl⟩ := run_lookupWalletCandidates.mp hrun
  obtain ⟨reply, rfl, rfl⟩ := run_lookupByCredentialId.mp hlookup
  refine ⟨_, reply, rfl, ?_⟩
  cases hresult : readIndexerReply reply >>= readCredentialResponse lower
      (normalizedCredentialId lower (normalizedCredentialId lower credentialId)) with
  | error e => exact Or.inl ⟨e, rfl⟩
  | ok result =>
    obtain ⟨response, hreply, hread⟩ := except_bind_eq_ok.mp hresult
    obtain ⟨contracts, hchecked⟩ := checked_of_readCredentialResponse hread
    have hanswered : reply = .answered response := by
      cases reply with
      | answered body => rw [Except.ok.inj hreply]
      | _ => cases hreply
    exact Or.inr ⟨_, response, contracts, rfl, hanswered, hchecked.listed,
      walletCandidateLookup_complete hchecked⟩

end runs

/-! ## A sample answer -/

/-- An entry whose numbers are texts. -/
def sampleListing : JsonValue :=
  .object [
    ("contract_id", .string (sampleContractId 7)),
    ("birth_wasm_hash", .string (toHex (List.replicate 32 1))),
    ("creation_transaction_hash", .string ("0x" ++ toHex (List.replicate 32 2))),
    ("creation_ledger", .string "50"),
    ("current_wasm_hash", .string (toHex (List.replicate 32 1))),
    ("derived_address", .bool true),
    ("collision", .bool false),
    ("incomplete", .bool false)]

def sampleAnswer : JsonValue :=
  .object [
    ("schema", .number ['2']),
    ("complete", .bool true),
    ("indexed_through_ledger", .number ['9', '9']),
    ("credentialId", .string "0102"),
    ("count", .string "1"),
    ("contracts", .array [sampleListing])]

theorem lookupWalletCandidates_complete_sample : ∃ lookup,
    Program.answer (fun _ => (.answered sampleAnswer : IndexerReply))
        ((IndexerClient.create "" none).lookupWalletCandidates .asciiOnly "0x0102") = .ok lookup ∧
      lookup.complete = true ∧ List.Forall₂ (Yields .asciiOnly) [sampleListing] lookup.candidates := by
  have hanswer : (Program.answer (fun _ => (.answered sampleAnswer : IndexerReply))
      ((IndexerClient.create "" none).lookupWalletCandidates .asciiOnly
        "0x0102")).toOption.any (·.complete) = true := by
    decide +kernel
  have hrun := Program.run_transcript (fun _ => (.answered sampleAnswer : IndexerReply))
    ((IndexerClient.create "" none).lookupWalletCandidates .asciiOnly "0x0102")
  obtain ⟨request, reply, ht, ⟨e, he⟩ | ⟨lookup, response, contracts, hok, hreply, hlisted, -,
    hcandidates⟩⟩ := lookupWalletCandidates_complete hrun
  · rw [he] at hanswer
    exact absurd hanswer Bool.false_ne_true
  · have hmem := Program.mem_transcript (ht ▸ List.mem_singleton_self _)
    rw [hok] at hanswer
    have hresponse : sampleAnswer = response := by
      rw [hreply] at hmem
      injection hmem.symm
    have hcontracts : contracts = [sampleListing] := by
      rw [← hresponse] at hlisted
      injection hlisted.symm with h
      injection h
    exact ⟨lookup, hok, hanswer, hcontracts ▸ hcandidates hanswer⟩

end SmartAccountKit
