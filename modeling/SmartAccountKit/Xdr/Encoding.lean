import SmartAccountKit.Lib.Sha256
import SmartAccountKit.Lib.XdrCode
import SmartAccountKit.Xdr.Values

/-!
# XDR of Stellar values

The byte strings that `toXDR` gives for the values of `Xdr.Values`.
-/

namespace SmartAccountKit
open Lib

/-- The encoding of an ed25519 public key: its only key type and the key. -/
def publicKeyXDR (ed25519 : BytesN 32) : Bytes := xdrU32 0 ++ ed25519.1

/-- The position of an address type in `SCAddressType`. -/
def ScAddress.discriminant : ScAddress → ℕ
  | account _ => 0
  | contract _ => 1
  | muxedAccount _ _ => 2
  | claimableBalance _ => 3
  | liquidityPool _ => 4
  | muxedContract _ _ => 5

/-- What follows the discriminant of an address. -/
def ScAddress.body : ScAddress → Bytes
  | account ed25519 => publicKeyXDR ed25519
  | contract contractId => contractId.1
  | muxedAccount id ed25519 => xdrU64 id.toNat ++ ed25519.1
  | claimableBalance balanceId => xdrU32 0 ++ balanceId.1
  | liquidityPool poolId => poolId.1
  | muxedContract id contractId => xdrU64 id.toNat ++ contractId.1

def ScAddress.toXDR (a : ScAddress) : Bytes := xdrU32 a.discriminant ++ a.body

def ContractExecutable.toXDR : ContractExecutable → Bytes
  | wasm wasmHash => xdrU32 0 ++ wasmHash.1
  | stellarAsset => xdrU32 1
  | externalRef owner tag => xdrU32 2 ++ (owner.toXDR ++ xdrOpaque tag)

mutual

/-- What follows the discriminant of a value. -/
def ScVal.body : ScVal → Bytes
  | .bool b => xdrU32 (if b then 1 else 0)
  | .void => []
  | .error type code => xdrU32 type ++ xdrU32 code.toNat
  | .u32 n => xdrU32 n.toNat
  | .i32 n => xdrU32 n.toBitVec.toNat
  | .u64 n => xdrU64 n.toNat
  | .i64 n => xdrU64 n.toBitVec.toNat
  | .timepoint n => xdrU64 n.toNat
  | .duration n => xdrU64 n.toNat
  | .u128 n => beBytes 16 n.toNat
  | .i128 n => beBytes 16 n.toNat
  | .u256 n => beBytes 32 n.toNat
  | .i256 n => beBytes 32 n.toNat
  | .bytes bs => xdrOpaque bs
  | .string str => xdrOpaque str
  | .symbol sym => xdrOpaque sym
  | .vec none => xdrU32 0
  | .vec (some items) => xdrU32 1 ++ (xdrU32 items.length ++ ScVal.itemsXDR items)
  | .map none => xdrU32 0
  | .map (some entries) => xdrU32 1 ++ (xdrU32 entries.length ++ ScVal.entriesXDR entries)
  | .address addr => addr.toXDR
  | .contractInstance executable none => executable.toXDR ++ xdrU32 0
  | .contractInstance executable (some storage) =>
    executable.toXDR ++ (xdrU32 1 ++ (xdrU32 storage.length ++ ScVal.entriesXDR storage))
  | .ledgerKeyContractInstance => []
  | .ledgerKeyNonce nonce => xdrU64 nonce.toBitVec.toNat

/-- The encoded items of a vector, without their number. -/
def ScVal.itemsXDR : List ScVal → Bytes
  | [] => []
  | v :: vs => xdrU32 v.discriminant ++ v.body ++ ScVal.itemsXDR vs

/-- The encoded entries of a map, without their number. -/
def ScVal.entriesXDR : List (ScVal × ScVal) → Bytes
  | [] => []
  | (k, v) :: es =>
    xdrU32 k.discriminant ++ k.body ++ (xdrU32 v.discriminant ++ v.body) ++ ScVal.entriesXDR es

end

def ScVal.toXDR (v : ScVal) : Bytes := xdrU32 v.discriminant ++ v.body

theorem ScVal.itemsXDR_eq (vs : List ScVal) : ScVal.itemsXDR vs = vs.flatMap ScVal.toXDR := by
  induction vs with
  | nil => rfl
  | cons v vs ih => rw [ScVal.itemsXDR, ih, List.flatMap_cons, ScVal.toXDR]

/-- The encoding of a map entry. -/
def scMapEntryXDR (e : ScVal × ScVal) : Bytes := e.1.toXDR ++ e.2.toXDR

theorem ScVal.entriesXDR_eq (es : List (ScVal × ScVal)) :
    ScVal.entriesXDR es = es.flatMap scMapEntryXDR := by
  induction es with
  | nil => rfl
  | cons e es ih =>
    rw [ScVal.entriesXDR, ih, List.flatMap_cons, scMapEntryXDR, ScVal.toXDR, ScVal.toXDR]

def InvokeContractArgs.toXDR (args : InvokeContractArgs) : Bytes :=
  args.contractAddress.toXDR ++ (xdrOpaque args.functionName ++ xdrArray ScVal.toXDR args.args)

def Asset.toXDR : Asset → Bytes
  | native => xdrU32 0
  | creditAlphanum4 code issuer => xdrU32 1 ++ (code.1 ++ publicKeyXDR issuer)
  | creditAlphanum12 code issuer => xdrU32 2 ++ (code.1 ++ publicKeyXDR issuer)

def ContractIdPreimage.toXDR : ContractIdPreimage → Bytes
  | fromAddress address salt => xdrU32 0 ++ (address.toXDR ++ salt.1)
  | fromAsset asset => xdrU32 1 ++ asset.toXDR

def CreateContractArgs.toXDR (args : CreateContractArgs) : Bytes :=
  args.contractIdPreimage.toXDR ++ args.executable.toXDR

def CreateContractArgsV2.toXDR (args : CreateContractArgsV2) : Bytes :=
  args.contractIdPreimage.toXDR ++
    (args.executable.toXDR ++ xdrArray ScVal.toXDR args.constructorArgs)

def SorobanAuthorizedFunction.toXDR : SorobanAuthorizedFunction → Bytes
  | contractFn args => xdrU32 0 ++ args.toXDR
  | createContractHostFn args => xdrU32 1 ++ args.toXDR
  | createContractV2HostFn args => xdrU32 2 ++ args.toXDR

mutual

def SorobanAuthorizedInvocation.toXDR : SorobanAuthorizedInvocation → Bytes
  | .node function subs =>
    function.toXDR ++ (xdrU32 subs.length ++ SorobanAuthorizedInvocation.listXDR subs)

/-- The encodings of a list of invocations, without their number. -/
def SorobanAuthorizedInvocation.listXDR : List SorobanAuthorizedInvocation → Bytes
  | [] => []
  | i :: is => SorobanAuthorizedInvocation.toXDR i ++ SorobanAuthorizedInvocation.listXDR is

end

theorem SorobanAuthorizedInvocation.listXDR_eq (is : List SorobanAuthorizedInvocation) :
    listXDR is = is.flatMap SorobanAuthorizedInvocation.toXDR := by
  induction is with
  | nil => rfl
  | cons i is ih => rw [listXDR, ih, List.flatMap_cons]

/-- A preimage starts with its envelope type. -/
def HashIdPreimage.toXDR : HashIdPreimage → Bytes
  | sorobanAuthorization networkId nonce expiration invocation =>
    xdrU32 9 ++ (networkId.1 ++ (xdrU64 nonce.toBitVec.toNat ++
      (xdrU32 expiration.toNat ++ invocation.toXDR)))
  | sorobanAuthorizationWithAddress networkId nonce expiration address invocation =>
    xdrU32 10 ++ (networkId.1 ++ (xdrU64 nonce.toBitVec.toNat ++
      (xdrU32 expiration.toNat ++ (address.toXDR ++ invocation.toXDR))))

/-- The SDK's `hash`. -/
def hash (data : Bytes) : BytesN 32 := ⟨sha256 data, length_sha256 data⟩

end SmartAccountKit
