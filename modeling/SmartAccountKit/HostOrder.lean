import SmartAccountKit.AuthPayloadTheorems

/-!
# The comparator and the host

The host's order on the values that stand in signer and policy keys, and that
`compareScVal` is this order: sorting signer keys with it gives the only list
that the host accepts.
-/

namespace SmartAccountKit
open Lib

/-! ## The order of the host -/

/-- The key bytes of an address, which the host compares inside one kind of address. -/
def ScAddress.keyBytes : ScAddress → Bytes
  | account ed25519 => ed25519.1
  | contract contractId => contractId.1
  | muxedAccount id ed25519 => xdrU64 id.toNat ++ ed25519.1
  | claimableBalance balanceId => balanceId.1
  | liquidityPool poolId => poolId.1
  | muxedContract id contractId => xdrU64 id.toNat ++ contractId.1

mutual

/-- How the host orders two values: by type, then by content. The contents of other types than
those of a key are left tied. -/
def hostOrder : ScVal → ScVal → Ordering
  | .vec (some as), .vec (some bs) => hostOrderItems as bs
  | .symbol a, .symbol b => bytesOrder a b
  | .string a, .string b => bytesOrder a b
  | .bytes a, .bytes b => bytesOrder a b
  | .address a, .address b =>
    (natOrder a.discriminant b.discriminant).then (bytesOrder a.keyBytes b.keyBytes)
  | a, b => natOrder a.discriminant b.discriminant

/-- How the host orders two vectors: at the first items that differ, with a proper prefix
smaller. -/
def hostOrderItems : List ScVal → List ScVal → Ordering
  | [], [] => .eq
  | [], _ :: _ => .lt
  | _ :: _, [] => .gt
  | a :: as, b :: bs => (hostOrder a b).then (hostOrderItems as bs)

end

/-- The values of signer and policy keys: vectors, to any depth, of text, bytes and addresses. -/
inductive HostKey : ScVal → Prop
  | vec {items : List ScVal} : (∀ v ∈ items, HostKey v) → HostKey (.vec (some items))
  | symbol {sym : Bytes} : Utf8Valid sym → HostKey (.symbol sym)
  | string {str : Bytes} : Utf8Valid str → HostKey (.string str)
  | bytes {bs : Bytes} : HostKey (.bytes bs)
  | address {addr : ScAddress} : HostKey (.address addr)

theorem hostOrderItems_eq (as bs : List ScVal) :
    hostOrderItems as bs = List.compareLex hostOrder as bs := by
  induction as generalizing bs with
  | nil => cases bs <;> rfl
  | cons a as ih =>
    cases bs with
    | nil => rfl
    | cons b bs => rw [hostOrderItems, List.compareLex_cons_cons, ih]

theorem hostOrder_vec (as bs : List ScVal) :
    hostOrder (.vec (some as)) (.vec (some bs)) = List.compareLex hostOrder as bs := by
  rw [hostOrder, hostOrderItems_eq]

/-- Values of two types are in the order of the types. -/
theorem hostOrder_of_ne {a b : ScVal} (h : a.discriminant ≠ b.discriminant) :
    hostOrder a b = natOrder a.discriminant b.discriminant := by
  unfold hostOrder
  split <;> first | rfl | exact absurd rfl h

/-! ## Addresses -/

theorem bytesOrder_append (s as bs : Bytes) :
    bytesOrder (s ++ as) (s ++ bs) = bytesOrder as bs := by
  induction s with
  | nil => rfl
  | cons c s ih =>
    rw [List.cons_append, List.cons_append, bytesOrder, List.compareLex_cons_cons, byteOrder,
      natOrder_self]
    exact ih

/-- Small numbers are in the order of their encodings. -/
theorem bytesOrder_xdrU32 {m n : ℕ} (hm : m < 256) (hn : n < 256) (as bs : Bytes) :
    bytesOrder (xdrU32 m ++ as) (xdrU32 n ++ bs) = (natOrder m n).then (bytesOrder as bs) := by
  have hsmall : ∀ k : ℕ, k < 256 → xdrU32 k = [0, 0, 0] ++ [UInt8.ofNat k] := by
    intro k hk
    have hzero : k / 256 = 0 := by omega
    have hself : k % 256 = k := by omega
    simp [xdrU32, beBytes, beDigits, hzero, hself]
  rw [hsmall m hm, hsmall n hn, List.append_assoc, List.append_assoc, bytesOrder_append]
  show List.compareLex byteOrder (UInt8.ofNat m :: as) (UInt8.ofNat n :: bs) = _
  rw [List.compareLex_cons_cons, byteOrder, toNat_ofNat_byte hm, toNat_ofNat_byte hn]
  rfl

/-- What stands before the key bytes in an address depends on its kind alone. -/
theorem ScAddress.body_eq (a : ScAddress) :
    a.body = (if a.discriminant = 0 ∨ a.discriminant = 3 then xdrU32 0 else []) ++ a.keyBytes := by
  cases a <;> rfl

/-- The encodings of addresses are in the order of the kinds and, inside one, of the keys. -/
theorem bytesOrder_address (a b : ScAddress) :
    bytesOrder a.toXDR b.toXDR =
      (natOrder a.discriminant b.discriminant).then (bytesOrder a.keyBytes b.keyBytes) := by
  have hkind : ∀ c : ScAddress, c.discriminant < 256 := by
    intro c
    cases c <;> simp [ScAddress.discriminant]
  rw [ScAddress.toXDR, ScAddress.toXDR, bytesOrder_xdrU32 (hkind a) (hkind b)]
  by_cases h : a.discriminant = b.discriminant
  · rw [ScAddress.body_eq a, ScAddress.body_eq b, h, bytesOrder_append, natOrder_self]
  · cases hne : natOrder a.discriminant b.discriminant with
    | eq => exact absurd (natOrder_eq_eq.mp hne) h
    | lt => rfl
    | gt => rfl

/-! ## Agreement -/

/-- Values of two types are compared by the types on both sides. -/
theorem toOrdering_compareScVal_of_ne {a b : ScVal} (h : a.discriminant ≠ b.discriminant) :
    toOrdering (compareScVal a b) = hostOrder a b := by
  rw [compareScVal_eq, rankCompare, if_pos h, hostOrder_of_ne h]
  by_cases hlt : a.discriminant < b.discriminant
  · rw [if_pos hlt, natOrder, if_pos hlt]
    rfl
  · rw [if_neg hlt, natOrder, if_neg hlt, if_neg h]
    rfl

theorem compareScVal_symbol {a b : Bytes} (ha : Utf8Valid a) (hb : Utf8Valid b) :
    compareScVal (.symbol a) (.symbol b) = bufferCompare a b := by
  rw [compareScVal_eq, rankCompare, if_neg (by simp [ScVal.discriminant])]
  show bufferCompare (utf8Encode (utf8Decode a)) (utf8Encode (utf8Decode b)) = _
  rw [utf8Encode_utf8Decode ha, utf8Encode_utf8Decode hb]

theorem compareScVal_string {a b : Bytes} (ha : Utf8Valid a) (hb : Utf8Valid b) :
    compareScVal (.string a) (.string b) = bufferCompare a b := by
  rw [compareScVal_eq, rankCompare, if_neg (by simp [ScVal.discriminant])]
  show bufferCompare (utf8Encode (utf8Decode a)) (utf8Encode (utf8Decode b)) = _
  rw [utf8Encode_utf8Decode ha, utf8Encode_utf8Decode hb]

/-- On keys the comparator has the sign of the host's order. -/
theorem toOrdering_compareScVal {a b : ScVal} (ha : HostKey a) (hb : HostKey b) :
    toOrdering (compareScVal a b) = hostOrder a b := by
  induction ha generalizing b with
  | vec has ih =>
    cases hb with
    | vec hbs =>
      rw [compareScVal_vec, toOrdering_lexCompare, hostOrder_vec]
      exact compareLex_congr fun x hx y hy => ih x hx (hbs y hy)
    | _ => exact toOrdering_compareScVal_of_ne (by simp [ScVal.discriminant])
  | symbol hsym =>
    cases hb with
    | symbol hsym' => rw [compareScVal_symbol hsym hsym', toOrdering_bufferCompare, hostOrder]
    | _ => exact toOrdering_compareScVal_of_ne (by simp [ScVal.discriminant])
  | string hstr =>
    cases hb with
    | string hstr' => rw [compareScVal_string hstr hstr', toOrdering_bufferCompare, hostOrder]
    | _ => exact toOrdering_compareScVal_of_ne (by simp [ScVal.discriminant])
  | bytes =>
    cases hb with
    | bytes => rw [compareScVal_bytes, toOrdering_bufferCompare, hostOrder]
    | _ => exact toOrdering_compareScVal_of_ne (by simp [ScVal.discriminant])
  | address =>
    cases hb with
    | address => rw [compareScVal_address, toOrdering_bufferCompare, bytesOrder_address, hostOrder]
    | _ => exact toOrdering_compareScVal_of_ne (by simp [ScVal.discriminant])

/-- Values that tie have one type. -/
theorem discriminant_eq_of_compareScVal {a b : ScVal} (h : compareScVal a b = 0) :
    a.discriminant = b.discriminant := by
  by_contra hne
  rw [compareScVal_eq, rankCompare, if_pos hne] at h
  split_ifs at h
  omega

/-- Keys that tie are one value. -/
theorem HostKey.eq_of_compareScVal {a b : ScVal} (ha : HostKey a) (hb : HostKey b)
    (h : compareScVal a b = 0) : a = b := by
  have hrank := discriminant_eq_of_compareScVal h
  induction ha generalizing b with
  | vec has ih =>
    cases hb with
    | vec hbs =>
      rw [compareScVal_vec, lexCompare_eq_zero] at h
      have hitems := eq_of_forall₂ h fun x hx y hy hxy =>
        ih x hx (hbs y hy) hxy (discriminant_eq_of_compareScVal hxy)
      rw [hitems]
    | _ => simp [ScVal.discriminant] at hrank
  | symbol hsym =>
    cases hb with
    | symbol hsym' =>
      rw [compareScVal_symbol hsym hsym', bufferCompare_eq_zero] at h
      rw [h]
    | _ => simp [ScVal.discriminant] at hrank
  | string hstr =>
    cases hb with
    | string hstr' =>
      rw [compareScVal_string hstr hstr', bufferCompare_eq_zero] at h
      rw [h]
    | _ => simp [ScVal.discriminant] at hrank
  | bytes =>
    cases hb with
    | bytes =>
      rw [compareScVal_bytes, bufferCompare_eq_zero] at h
      rw [h]
    | _ => simp [ScVal.discriminant] at hrank
  | address =>
    cases hb with
    | address =>
      rw [compareScVal_address, bufferCompare_eq_zero] at h
      rw [ScAddress.toXDR_inj h]
    | _ => simp [ScVal.discriminant] at hrank

/-! ## Signer keys -/

/-- The key of a signer is one of the values the host's order is about. -/
theorem hostKey_of_signerToScVal {signer : Signer} {key : ScVal}
    (h : signerToScVal signer = .ok key) : HostKey key := by
  have hsymbol : ∀ name : String, HostKey (scvSymbol name) := fun name => .symbol ⟨name, rfl⟩
  cases signer with
  | delegated address =>
    obtain ⟨a, -, rfl⟩ := signerToScVal_delegated_eq_ok.mp h
    apply HostKey.vec
    intro v hv
    rcases List.mem_pair.mp hv with rfl | rfl
    · exact hsymbol _
    · exact .address
  | external verifier keyData =>
    obtain ⟨a, -, rfl⟩ := signerToScVal_external_eq_ok.mp h
    apply HostKey.vec
    intro v hv
    simp only [List.mem_cons, List.not_mem_nil, or_false] at hv
    rcases hv with rfl | rfl | rfl
    · exact hsymbol _
    · exact .address
    · exact .bytes

/-- `compareScVal` is a total order on all values, with the sign of the host's order on keys and
ties only between keys of one encoding; and pairwise different signer keys are sorted into the one
list that is strictly increasing for the host. -/
theorem compareScVal_isHostOrder (a b : ScVal) (keys : List ScVal)
    (hkeys : ∀ key ∈ keys, ∃ signer, signerToScVal signer = .ok key)
    (hdifferent : keys.Pairwise fun k l => k ≠ l) :
    LawfulAt compareScVal a ∧
      (HostKey a → HostKey b → toOrdering (compareScVal a b) = hostOrder a b) ∧
      (HostKey a → HostKey b → a.Sized → b.Sized →
        (compareScVal a b = 0 ↔ a.toXDR = b.toXDR)) ∧
      (sortBy compareScVal keys).Perm keys ∧
      (sortBy compareScVal keys).Pairwise (fun k l => hostOrder k l = .lt) ∧
      ∀ sorted : List ScVal, sorted.Perm keys →
        sorted.Pairwise (fun k l => hostOrder k l = .lt) → sorted = sortBy compareScVal keys := by
  have hkey : ∀ key ∈ keys, HostKey key := by
    intro key hmem
    obtain ⟨signer, hsigner⟩ := hkeys key hmem
    exact hostKey_of_signerToScVal hsigner
  have hsign : ∀ k ∈ keys, ∀ l ∈ keys, (hostOrder k l = .lt ↔ compareScVal k l < 0) := by
    intro k hk l hl
    rw [← toOrdering_compareScVal (hkey k hk) (hkey l hl), toOrdering_eq_lt]
  -- different keys never tie, so the sorted list has no choice left
  have hties : keys.Pairwise fun k l => compareScVal k l ≠ 0 := by
    refine hdifferent.imp_of_mem fun {k l} hk hl hkl hzero => ?_
    exact hkl ((hkey k hk).eq_of_compareScVal (hkey l hl) hzero)
  have hstrict := sortBy_strict compareScVal_lawfulAt hties
  refine ⟨compareScVal_lawfulAt a, toOrdering_compareScVal, ?_, sortBy_perm keys, ?_, ?_⟩
  · intro ha hb hsa hsb
    constructor
    · intro hzero
      rw [ha.eq_of_compareScVal hb hzero]
    · intro hxdr
      rw [ScVal.toXDR_selfDelimiting.inj hsa hsb hxdr]
      exact (compareScVal_lawfulAt b).refl
  · refine hstrict.imp_of_mem fun {k l} hk hl hlt => ?_
    exact (hsign k (mem_sortBy.mp hk) l (mem_sortBy.mp hl)).mpr hlt
  · intro sorted hperm hsorted
    have hle : sorted.Pairwise fun k l => compareScVal k l ≤ 0 := by
      refine hsorted.imp_of_mem fun {k l} hk hl hlt => ?_
      have hlt' := (hsign k (hperm.mem_iff.mp hk) l (hperm.mem_iff.mp hl)).mp hlt
      omega
    rw [sortBy_eq_of_perm compareScVal_lawfulAt hperm.symm hties, sortBy_of_pairwise hle]

/-- The key of a sample signer. -/
def sampleSignerKey (n : UInt8) : ScVal :=
  .vec (some [scvSymbol "External", .address (sampleContract 11), .bytes (List.replicate 32 n)])

theorem sampleSigner_key (n : UInt8) : signerToScVal (sampleSigner n) = .ok (sampleSignerKey n) :=
  signerToScVal_external_eq_ok.mpr ⟨_, sampleContract_toStrkey 11, rfl⟩

theorem compareScVal_isHostOrder_sample :
    [sampleSignerKey 1, sampleSignerKey 2] =
      sortBy compareScVal [sampleSignerKey 2, sampleSignerKey 1] := by
  have hkeys : ∀ key ∈ [sampleSignerKey 2, sampleSignerKey 1],
      ∃ signer, signerToScVal signer = .ok key := by
    intro key hkey
    rcases List.mem_pair.mp hkey with rfl | rfl
    · exact ⟨_, sampleSigner_key 2⟩
    · exact ⟨_, sampleSigner_key 1⟩
  have hlt : hostOrder (sampleSignerKey 1) (sampleSignerKey 2) = .lt := by decide
  have hne : sampleSignerKey 2 ≠ sampleSignerKey 1 := by simp [sampleSignerKey]
  exact (compareScVal_isHostOrder (sampleSignerKey 1) (sampleSignerKey 2) _ hkeys
    (List.pairwise_pair.mpr hne)).2.2.2.2.2 _ (List.Perm.swap ..) (List.pairwise_pair.mpr hlt)

end SmartAccountKit
