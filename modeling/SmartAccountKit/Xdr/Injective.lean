import SmartAccountKit.Xdr.Encoding
import SmartAccountKit.Xdr.Structure

/-!
# XDR encodings are injective

A value whose vectors, maps and byte strings have lengths that XDR can write
is determined by its encoding, at the front of any byte string.
-/

namespace SmartAccountKit
open Lib

/-! ## Sizes -/

/-- The lengths inside an executable fit in XDR's four-byte length. -/
def ContractExecutable.Sized : ContractExecutable → Prop
  | externalRef _ tag => tag.length < 2 ^ 32
  | _ => True

mutual

/-- Every length inside a value fits in XDR's four-byte length. -/
def ScVal.Sized : ScVal → Prop
  | .bytes bs => bs.length < 2 ^ 32
  | .string str => str.length < 2 ^ 32
  | .symbol sym => sym.length < 2 ^ 32
  | .vec (some items) => items.length < 2 ^ 32 ∧ ScVal.ItemsSized items
  | .map (some entries) => entries.length < 2 ^ 32 ∧ ScVal.EntriesSized entries
  | .contractInstance executable none => executable.Sized
  | .contractInstance executable (some storage) =>
    executable.Sized ∧ storage.length < 2 ^ 32 ∧ ScVal.EntriesSized storage
  | _ => True

def ScVal.ItemsSized : List ScVal → Prop
  | [] => True
  | v :: vs => v.Sized ∧ ScVal.ItemsSized vs

def ScVal.EntriesSized : List (ScVal × ScVal) → Prop
  | [] => True
  | (k, v) :: es => k.Sized ∧ v.Sized ∧ ScVal.EntriesSized es

end

theorem ScVal.itemsSized_iff {vs : List ScVal} : ScVal.ItemsSized vs ↔ ∀ v ∈ vs, v.Sized := by
  induction vs with
  | nil => simp [ScVal.ItemsSized]
  | cons v vs ih => simp [ScVal.ItemsSized, ih]

theorem ScVal.entriesSized_iff {es : List (ScVal × ScVal)} :
    ScVal.EntriesSized es ↔ ∀ e ∈ es, e.1.Sized ∧ e.2.Sized := by
  induction es with
  | nil => simp [ScVal.EntriesSized]
  | cons e es ih => simp [ScVal.EntriesSized, ih, and_assoc]

/-! ## Machine integers -/

theorem u32_append_inj {m n : UInt32} {s t : Bytes}
    (h : xdrU32 m.toNat ++ s = xdrU32 n.toNat ++ t) : m = n ∧ s = t := by
  obtain ⟨hn, hst⟩ := xdrU32_append_inj m.toNat_lt n.toNat_lt h
  exact ⟨UInt32.toNat_inj.mp hn, hst⟩

theorem u64_append_inj {m n : UInt64} {s t : Bytes}
    (h : xdrU64 m.toNat ++ s = xdrU64 n.toNat ++ t) : m = n ∧ s = t := by
  obtain ⟨hn, hst⟩ := xdrU64_append_inj m.toNat_lt n.toNat_lt h
  exact ⟨UInt64.toNat_inj.mp hn, hst⟩

theorem i32_append_inj {m n : Int32} {s t : Bytes}
    (h : xdrU32 m.toBitVec.toNat ++ s = xdrU32 n.toBitVec.toNat ++ t) : m = n ∧ s = t := by
  obtain ⟨hn, hst⟩ := xdrU32_append_inj m.toBitVec.isLt n.toBitVec.isLt h
  exact ⟨Int32.toBitVec_inj.mp (BitVec.eq_of_toNat_eq hn), hst⟩

theorem i64_append_inj {m n : Int64} {s t : Bytes}
    (h : xdrU64 m.toBitVec.toNat ++ s = xdrU64 n.toBitVec.toNat ++ t) : m = n ∧ s = t := by
  obtain ⟨hn, hst⟩ := xdrU64_append_inj m.toBitVec.isLt n.toBitVec.isLt h
  exact ⟨Int64.toBitVec_inj.mp (BitVec.eq_of_toNat_eq hn), hst⟩

theorem bitVec_append_inj {k w : ℕ} (hw : 2 ^ w = 256 ^ k) {m n : BitVec w} {s t : Bytes}
    (h : beBytes k m.toNat ++ s = beBytes k n.toNat ++ t) : m = n ∧ s = t := by
  obtain ⟨hn, hst⟩ := beBytes_append_inj (hw ▸ m.isLt) (hw ▸ n.isLt) h
  exact ⟨BitVec.eq_of_toNat_eq hn, hst⟩

/-! ## Addresses and executables -/

theorem publicKeyXDR_append_inj {a b : BytesN 32} {s t : Bytes}
    (h : publicKeyXDR a ++ s = publicKeyXDR b ++ t) : a = b ∧ s = t := by
  simp only [publicKeyXDR, List.append_assoc] at h
  exact bytesN_append_inj (List.append_cancel_left h)

theorem ScAddress.discriminant_lt (a : ScAddress) : a.discriminant < 2 ^ 32 := by
  cases a <;> simp [ScAddress.discriminant]

theorem ScAddress.toXDR_append_inj {a b : ScAddress} {s t : Bytes}
    (h : a.toXDR ++ s = b.toXDR ++ t) : a = b ∧ s = t := by
  simp only [ScAddress.toXDR, List.append_assoc] at h
  obtain ⟨htag, hbody⟩ := xdrU32_append_inj a.discriminant_lt b.discriminant_lt h
  cases a <;> cases b <;> simp only [ScAddress.body, List.append_assoc] at hbody
  case account.account =>
    obtain ⟨rfl, hst⟩ := publicKeyXDR_append_inj hbody
    exact ⟨rfl, hst⟩
  case contract.contract =>
    obtain ⟨rfl, hst⟩ := bytesN_append_inj hbody
    exact ⟨rfl, hst⟩
  case muxedAccount.muxedAccount =>
    obtain ⟨rfl, hrest⟩ := u64_append_inj hbody
    obtain ⟨rfl, hst⟩ := bytesN_append_inj hrest
    exact ⟨rfl, hst⟩
  case claimableBalance.claimableBalance =>
    obtain ⟨rfl, hst⟩ := bytesN_append_inj (List.append_cancel_left hbody)
    exact ⟨rfl, hst⟩
  case liquidityPool.liquidityPool =>
    obtain ⟨rfl, hst⟩ := bytesN_append_inj hbody
    exact ⟨rfl, hst⟩
  case muxedContract.muxedContract =>
    obtain ⟨rfl, hrest⟩ := u64_append_inj hbody
    obtain ⟨rfl, hst⟩ := bytesN_append_inj hrest
    exact ⟨rfl, hst⟩
  all_goals exact absurd htag (by simp [ScAddress.discriminant])

/-- Two addresses with one encoding are one address. -/
theorem ScAddress.toXDR_inj {a b : ScAddress} (h : a.toXDR = b.toXDR) : a = b :=
  (ScAddress.toXDR_append_inj (s := []) (t := []) (by rw [h])).1

theorem ContractExecutable.toXDR_append_inj {a b : ContractExecutable} {s t : Bytes}
    (ha : a.Sized) (hb : b.Sized) (h : a.toXDR ++ s = b.toXDR ++ t) : a = b ∧ s = t := by
  cases a <;> cases b <;> simp only [ContractExecutable.toXDR, List.append_assoc] at h
  case wasm.wasm =>
    obtain ⟨rfl, hst⟩ := bytesN_append_inj (List.append_cancel_left h)
    exact ⟨rfl, hst⟩
  case stellarAsset.stellarAsset => exact ⟨rfl, List.append_cancel_left h⟩
  case externalRef.externalRef =>
    obtain ⟨rfl, hrest⟩ := ScAddress.toXDR_append_inj (List.append_cancel_left h)
    obtain ⟨rfl, hst⟩ := xdrOpaque_append_inj ha hb hrest
    exact ⟨rfl, hst⟩
  -- different tags give different first words
  all_goals
    have htag := (xdrU32_append_inj (by decide) (by decide) h).1
    exact absurd htag (by decide)

/-! ## Values -/

theorem ScVal.discriminant_lt (v : ScVal) : v.discriminant < 2 ^ 32 := by
  cases v <;> simp [ScVal.discriminant]

/-- The encodings of the items of a vector, with the number in front. -/
theorem ScVal.vecBody_append_inj {as bs : List ScVal} {s t : Bytes}
    (ih : ∀ a ∈ as, SelfDelimitingAt ScVal.Sized ScVal.toXDR a)
    (has : as.length < 2 ^ 32 ∧ ScVal.ItemsSized as)
    (hbs : bs.length < 2 ^ 32 ∧ ScVal.ItemsSized bs)
    (h : xdrU32 as.length ++ ScVal.itemsXDR as ++ s = xdrU32 bs.length ++ ScVal.itemsXDR bs ++ t) :
    as = bs ∧ s = t := by
  rw [ScVal.itemsXDR_eq, ScVal.itemsXDR_eq] at h
  exact xdrArray_append_inj ih has.1 hbs.1 (ScVal.itemsSized_iff.mp has.2)
    (ScVal.itemsSized_iff.mp hbs.2) h

/-- The encodings of the entries of a map, with the number in front. -/
theorem ScVal.mapBody_append_inj {as bs : List (ScVal × ScVal)} {s t : Bytes}
    (ih : ∀ v ∈ entryValues as, SelfDelimitingAt ScVal.Sized ScVal.toXDR v)
    (has : as.length < 2 ^ 32 ∧ ScVal.EntriesSized as)
    (hbs : bs.length < 2 ^ 32 ∧ ScVal.EntriesSized bs)
    (h : xdrU32 as.length ++ ScVal.entriesXDR as ++ s =
      xdrU32 bs.length ++ ScVal.entriesXDR bs ++ t) : as = bs ∧ s = t := by
  rw [ScVal.entriesXDR_eq, ScVal.entriesXDR_eq] at h
  refine xdrArray_append_inj (P := fun e => e.1.Sized ∧ e.2.Sized) ?_ has.1 hbs.1
    (ScVal.entriesSized_iff.mp has.2) (ScVal.entriesSized_iff.mp hbs.2) h
  intro a ha hsize b s' t' hb hab
  simp only [scMapEntryXDR, List.append_assoc] at hab
  have hkey := ih a.1 (mem_entryValues.mpr ⟨a, ha, Or.inl rfl⟩)
  have hval := ih a.2 (mem_entryValues.mpr ⟨a, ha, Or.inr rfl⟩)
  obtain ⟨hk, hrest⟩ := hkey hsize.1 b.1 _ _ hb.1 hab
  obtain ⟨hv, hst⟩ := hval hsize.2 b.2 _ _ hb.2 hrest
  exact ⟨Prod.ext hk hv, hst⟩

/-- The present or absent part of an optional vector. -/
theorem ScVal.vecOption_append_inj {as bs : Option (List ScVal)} {s t : Bytes}
    (ih : ∀ c ∈ (ScVal.vec as).children, SelfDelimitingAt ScVal.Sized ScVal.toXDR c)
    (has : (ScVal.vec as).Sized) (hbs : (ScVal.vec bs).Sized)
    (h : (ScVal.vec as).body ++ s = (ScVal.vec bs).body ++ t) :
    ScVal.vec as = ScVal.vec bs ∧ s = t := by
  cases as <;> cases bs <;> simp only [ScVal.body, List.append_assoc] at h
  case none.none => exact ⟨rfl, List.append_cancel_left h⟩
  case some.some as bs =>
    have h := List.append_cancel_left h
    simp only [← List.append_assoc] at h
    obtain ⟨rfl, hst⟩ := ScVal.vecBody_append_inj ih has hbs h
    exact ⟨rfl, hst⟩
  all_goals exact absurd (xdrU32_append_inj (by decide) (by decide) h).1 (by decide)

theorem ScVal.mapOption_append_inj {as bs : Option (List (ScVal × ScVal))} {s t : Bytes}
    (ih : ∀ c ∈ (ScVal.map as).children, SelfDelimitingAt ScVal.Sized ScVal.toXDR c)
    (has : (ScVal.map as).Sized) (hbs : (ScVal.map bs).Sized)
    (h : (ScVal.map as).body ++ s = (ScVal.map bs).body ++ t) :
    ScVal.map as = ScVal.map bs ∧ s = t := by
  cases as <;> cases bs <;> simp only [ScVal.body, List.append_assoc] at h
  case none.none => exact ⟨rfl, List.append_cancel_left h⟩
  case some.some as bs =>
    have h := List.append_cancel_left h
    simp only [← List.append_assoc] at h
    obtain ⟨rfl, hst⟩ := ScVal.mapBody_append_inj ih has hbs h
    exact ⟨rfl, hst⟩
  all_goals exact absurd (xdrU32_append_inj (by decide) (by decide) h).1 (by decide)

/-- A contract instance is its executable followed by its storage as an optional map. -/
theorem ScVal.instanceBody (executable : ContractExecutable)
    (storage : Option (List (ScVal × ScVal))) :
    (ScVal.contractInstance executable storage).body =
      executable.toXDR ++ (ScVal.map storage).body := by
  cases storage <;> simp [ScVal.body]

theorem ScVal.instanceSized {executable : ContractExecutable}
    {storage : Option (List (ScVal × ScVal))}
    (h : (ScVal.contractInstance executable storage).Sized) :
    executable.Sized ∧ (ScVal.map storage).Sized := by
  cases storage <;> simp_all [ScVal.Sized]

theorem ScVal.instance_append_inj {x y : ContractExecutable}
    {as bs : Option (List (ScVal × ScVal))} {s t : Bytes}
    (ih : ∀ c ∈ (ScVal.contractInstance x as).children,
      SelfDelimitingAt ScVal.Sized ScVal.toXDR c)
    (has : (ScVal.contractInstance x as).Sized) (hbs : (ScVal.contractInstance y bs).Sized)
    (h : (ScVal.contractInstance x as).body ++ s = (ScVal.contractInstance y bs).body ++ t) :
    ScVal.contractInstance x as = ScVal.contractInstance y bs ∧ s = t := by
  rw [ScVal.instanceBody, ScVal.instanceBody, List.append_assoc, List.append_assoc] at h
  obtain ⟨hxs, hstorage⟩ := ScVal.instanceSized has
  obtain ⟨hys, hstorage'⟩ := ScVal.instanceSized hbs
  obtain ⟨rfl, hrest⟩ := ContractExecutable.toXDR_append_inj hxs hys h
  have ih' : ∀ c ∈ (ScVal.map as).children, SelfDelimitingAt ScVal.Sized ScVal.toXDR c := by
    cases as <;> exact ih
  obtain ⟨hmap, hst⟩ := ScVal.mapOption_append_inj ih' hstorage hstorage' hrest
  rw [ScVal.map.injEq] at hmap
  exact ⟨by rw [hmap], hst⟩

/-- Two values of one type with equal bodies, each followed by more bytes, are equal. -/
theorem ScVal.body_append_inj {a b : ScVal} {s t : Bytes}
    (ih : ∀ c ∈ a.children, SelfDelimitingAt ScVal.Sized ScVal.toXDR c) (ha : a.Sized)
    (hb : b.Sized) (htag : a.discriminant = b.discriminant) (h : a.body ++ s = b.body ++ t) :
    a = b ∧ s = t := by
  -- a pair of different arms is ruled out by its discriminants
  cases a <;> cases b <;>
    simp only [ScVal.discriminant, Nat.reduceEqDiff, reduceCtorEq, zero_ne_one] at htag
  case vec.vec => exact ScVal.vecOption_append_inj ih ha hb h
  case map.map => exact ScVal.mapOption_append_inj ih ha hb h
  case contractInstance.contractInstance => exact ScVal.instance_append_inj ih ha hb h
  all_goals simp only [ScVal.body, List.append_assoc, List.nil_append] at h
  case bool.bool =>
    obtain ⟨hb', hst⟩ := xdrU32_append_inj (by split <;> decide) (by split <;> decide) h
    refine ⟨?_, hst⟩
    split at hb' <;> split at hb' <;> simp_all
  case void.void => exact ⟨rfl, h⟩
  case error.error type₁ code₁ type₂ code₂ =>
    obtain ⟨htype, hrest⟩ := xdrU32_append_inj (type₁.isLt.trans (by decide))
      (type₂.isLt.trans (by decide)) h
    obtain ⟨rfl, hst⟩ := u32_append_inj hrest
    exact ⟨by rw [Fin.ext htype], hst⟩
  case u32.u32 => exact (u32_append_inj h).imp_left (congrArg _)
  case i32.i32 => exact (i32_append_inj h).imp_left (congrArg _)
  case u64.u64 | timepoint.timepoint | duration.duration =>
    exact (u64_append_inj h).imp_left (congrArg _)
  case i64.i64 | ledgerKeyNonce.ledgerKeyNonce =>
    exact (i64_append_inj h).imp_left (congrArg _)
  case u128.u128 | i128.i128 | u256.u256 | i256.i256 =>
    exact (bitVec_append_inj (by norm_num) h).imp_left (congrArg _)
  case bytes.bytes | string.string | symbol.symbol =>
    exact (xdrOpaque_append_inj ha hb h).imp_left (congrArg _)
  case address.address => exact (ScAddress.toXDR_append_inj h).imp_left (congrArg _)
  case ledgerKeyContractInstance.ledgerKeyContractInstance => exact ⟨rfl, h⟩

/-- An encoded value at the front of a byte string determines the value and the rest. -/
theorem ScVal.toXDR_selfDelimiting : SelfDelimiting ScVal.Sized ScVal.toXDR := by
  intro v
  induction v using ScVal.childInduction with
  | step v ih =>
    intro hv b s t hb h
    simp only [ScVal.toXDR, List.append_assoc] at h
    obtain ⟨htag, hbody⟩ := xdrU32_append_inj v.discriminant_lt b.discriminant_lt h
    exact ScVal.body_append_inj ih hv hb htag hbody

/-! ## Functions and invocation trees -/

/-- The lengths of an argument list fit. -/
def ArgsSized (args : List ScVal) : Prop :=
  args.length < 2 ^ 32 ∧ ∀ v ∈ args, v.Sized

def InvokeContractArgs.Sized (args : InvokeContractArgs) : Prop :=
  args.functionName.length < 2 ^ 32 ∧ ArgsSized args.args

def SorobanAuthorizedFunction.Sized : SorobanAuthorizedFunction → Prop
  | contractFn args => args.Sized
  | createContractHostFn args => args.executable.Sized
  | createContractV2HostFn args => args.executable.Sized ∧ ArgsSized args.constructorArgs

mutual

/-- Every length in an invocation tree fits in XDR's four-byte length. -/
def SorobanAuthorizedInvocation.Sized : SorobanAuthorizedInvocation → Prop
  | .node function subs =>
    function.Sized ∧ subs.length < 2 ^ 32 ∧ SorobanAuthorizedInvocation.ListSized subs

def SorobanAuthorizedInvocation.ListSized : List SorobanAuthorizedInvocation → Prop
  | [] => True
  | i :: is => i.Sized ∧ SorobanAuthorizedInvocation.ListSized is

end

theorem SorobanAuthorizedInvocation.listSized_iff {is : List SorobanAuthorizedInvocation} :
    ListSized is ↔ ∀ i ∈ is, i.Sized := by
  induction is with
  | nil => simp [ListSized]
  | cons i is ih => simp [ListSized, ih]

theorem argsXDR_append_inj {as bs : List ScVal} {s t : Bytes} (ha : ArgsSized as)
    (hb : ArgsSized bs) (h : xdrArray ScVal.toXDR as ++ s = xdrArray ScVal.toXDR bs ++ t) :
    as = bs ∧ s = t :=
  xdrArray_append_inj (fun a _ => ScVal.toXDR_selfDelimiting a) ha.1 hb.1 ha.2 hb.2 h

theorem InvokeContractArgs.toXDR_append_inj {a b : InvokeContractArgs} {s t : Bytes}
    (ha : a.Sized) (hb : b.Sized) (h : a.toXDR ++ s = b.toXDR ++ t) : a = b ∧ s = t := by
  cases a
  cases b
  simp only [InvokeContractArgs.toXDR, List.append_assoc] at h
  obtain ⟨rfl, hname⟩ := ScAddress.toXDR_append_inj h
  obtain ⟨rfl, hargs⟩ := xdrOpaque_append_inj ha.1 hb.1 hname
  obtain ⟨rfl, hst⟩ := argsXDR_append_inj ha.2 hb.2 hargs
  exact ⟨rfl, hst⟩

theorem Asset.toXDR_append_inj {a b : Asset} {s t : Bytes} (h : a.toXDR ++ s = b.toXDR ++ t) :
    a = b ∧ s = t := by
  cases a <;> cases b <;> simp only [Asset.toXDR, List.append_assoc] at h
  case native.native => exact ⟨rfl, List.append_cancel_left h⟩
  case creditAlphanum4.creditAlphanum4 =>
    obtain ⟨rfl, hrest⟩ := bytesN_append_inj (List.append_cancel_left h)
    obtain ⟨rfl, hst⟩ := publicKeyXDR_append_inj hrest
    exact ⟨rfl, hst⟩
  case creditAlphanum12.creditAlphanum12 =>
    obtain ⟨rfl, hrest⟩ := bytesN_append_inj (List.append_cancel_left h)
    obtain ⟨rfl, hst⟩ := publicKeyXDR_append_inj hrest
    exact ⟨rfl, hst⟩
  all_goals exact absurd (xdrU32_append_inj (by decide) (by decide) h).1 (by decide)

theorem ContractIdPreimage.toXDR_append_inj {a b : ContractIdPreimage} {s t : Bytes}
    (h : a.toXDR ++ s = b.toXDR ++ t) : a = b ∧ s = t := by
  cases a <;> cases b <;> simp only [ContractIdPreimage.toXDR, List.append_assoc] at h
  case fromAddress.fromAddress =>
    obtain ⟨rfl, hrest⟩ := ScAddress.toXDR_append_inj (List.append_cancel_left h)
    obtain ⟨rfl, hst⟩ := bytesN_append_inj hrest
    exact ⟨rfl, hst⟩
  case fromAsset.fromAsset =>
    exact (Asset.toXDR_append_inj (List.append_cancel_left h)).imp_left (congrArg _)
  all_goals exact absurd (xdrU32_append_inj (by decide) (by decide) h).1 (by decide)

theorem SorobanAuthorizedFunction.toXDR_append_inj {a b : SorobanAuthorizedFunction}
    {s t : Bytes} (ha : a.Sized) (hb : b.Sized) (h : a.toXDR ++ s = b.toXDR ++ t) :
    a = b ∧ s = t := by
  cases a <;> cases b <;> simp only [SorobanAuthorizedFunction.toXDR, List.append_assoc] at h
  case contractFn.contractFn =>
    exact (InvokeContractArgs.toXDR_append_inj ha hb (List.append_cancel_left h)).imp_left
      (congrArg _)
  case createContractHostFn.createContractHostFn x y =>
    have h := List.append_cancel_left h
    cases x
    cases y
    simp only [CreateContractArgs.toXDR, List.append_assoc] at h
    obtain ⟨rfl, hrest⟩ := ContractIdPreimage.toXDR_append_inj h
    obtain ⟨rfl, hst⟩ := ContractExecutable.toXDR_append_inj ha hb hrest
    exact ⟨rfl, hst⟩
  case createContractV2HostFn.createContractV2HostFn x y =>
    have h := List.append_cancel_left h
    cases x
    cases y
    simp only [CreateContractArgsV2.toXDR, List.append_assoc] at h
    obtain ⟨rfl, hrest⟩ := ContractIdPreimage.toXDR_append_inj h
    obtain ⟨rfl, hargs⟩ := ContractExecutable.toXDR_append_inj ha.1 hb.1 hrest
    obtain ⟨rfl, hst⟩ := argsXDR_append_inj ha.2 hb.2 hargs
    exact ⟨rfl, hst⟩
  all_goals exact absurd (xdrU32_append_inj (by decide) (by decide) h).1 (by decide)

/-- An encoded invocation tree at the front of a byte string determines the tree. -/
theorem SorobanAuthorizedInvocation.toXDR_selfDelimiting :
    SelfDelimiting SorobanAuthorizedInvocation.Sized SorobanAuthorizedInvocation.toXDR := by
  intro i
  induction i using SorobanAuthorizedInvocation.subInduction with
  | step i ih =>
    intro hi j s t hj h
    obtain ⟨f, subs⟩ := i
    obtain ⟨g, subs'⟩ := j
    simp only [SorobanAuthorizedInvocation.Sized, listSized_iff] at hi hj
    simp only [SorobanAuthorizedInvocation.toXDR, listXDR_eq, List.append_assoc] at h
    obtain ⟨rfl, hrest⟩ := SorobanAuthorizedFunction.toXDR_append_inj hi.1 hj.1 h
    simp only [← List.append_assoc] at hrest
    obtain ⟨rfl, hst⟩ := xdrArray_append_inj ih hi.2.1 hj.2.1 hi.2.2 hj.2.2 hrest
    exact ⟨rfl, hst⟩

/-! ## Preimages -/

/-- The lengths inside a preimage fit in XDR's four-byte length. -/
def HashIdPreimage.Sized : HashIdPreimage → Prop
  | sorobanAuthorization _ _ _ invocation => invocation.Sized
  | sorobanAuthorizationWithAddress _ _ _ _ invocation => invocation.Sized

/-- Two preimages with one encoding are one preimage. -/
theorem HashIdPreimage.toXDR_inj {a b : HashIdPreimage} (ha : a.Sized) (hb : b.Sized)
    (h : a.toXDR = b.toXDR) : a = b := by
  cases a <;> cases b <;> simp only [HashIdPreimage.toXDR] at h
  case sorobanAuthorization.sorobanAuthorization =>
    have hbody := List.append_cancel_left h
    obtain ⟨rfl, hnonce⟩ := bytesN_append_inj hbody
    obtain ⟨rfl, hexpiration⟩ := i64_append_inj hnonce
    obtain ⟨rfl, hinvocation⟩ := u32_append_inj hexpiration
    rw [SorobanAuthorizedInvocation.toXDR_selfDelimiting.inj ha hb hinvocation]
  case sorobanAuthorizationWithAddress.sorobanAuthorizationWithAddress =>
    have hbody := List.append_cancel_left h
    obtain ⟨rfl, hnonce⟩ := bytesN_append_inj hbody
    obtain ⟨rfl, hexpiration⟩ := i64_append_inj hnonce
    obtain ⟨rfl, haddress⟩ := u32_append_inj hexpiration
    obtain ⟨rfl, hinvocation⟩ := ScAddress.toXDR_append_inj haddress
    rw [SorobanAuthorizedInvocation.toXDR_selfDelimiting.inj ha hb hinvocation]
  all_goals exact absurd (xdrU32_append_inj (by decide) (by decide) h).1 (by decide)

end SmartAccountKit
