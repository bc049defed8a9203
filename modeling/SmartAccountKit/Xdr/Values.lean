import SmartAccountKit.Lib.Bytes

/-!
# Stellar values

The XDR types that the kit reads and builds. Symbols, strings and function names
are the byte strings that stand on the wire.
-/

namespace SmartAccountKit
open Lib

/-- An `SCAddress`. -/
inductive ScAddress where
  | account (ed25519 : BytesN 32)
  | contract (contractId : BytesN 32)
  | muxedAccount (id : UInt64) (ed25519 : BytesN 32)
  | claimableBalance (balanceId : BytesN 32)
  | liquidityPool (poolId : BytesN 32)
  | muxedContract (id : UInt64) (contractId : BytesN 32)
deriving DecidableEq

/-- A `ContractExecutable`; an external reference names its owner and a tag. -/
inductive ContractExecutable where
  | wasm (wasmHash : BytesN 32)
  | stellarAsset
  | externalRef (executableOwner : ScAddress) (tag : Bytes)
deriving DecidableEq

/-- An `SCVal`. -/
inductive ScVal where
  | bool (b : Bool)
  | void
  | error (type : Fin 10) (code : UInt32)
  | u32 (n : UInt32)
  | i32 (n : Int32)
  | u64 (n : UInt64)
  | i64 (n : Int64)
  | timepoint (n : UInt64)
  | duration (n : UInt64)
  | u128 (n : BitVec 128)
  | i128 (n : BitVec 128)
  | u256 (n : BitVec 256)
  | i256 (n : BitVec 256)
  | bytes (bs : Bytes)
  | string (str : Bytes)
  | symbol (sym : Bytes)
  | vec (items : Option (List ScVal))
  | map (entries : Option (List (ScVal × ScVal)))
  | address (addr : ScAddress)
  | contractInstance (executable : ContractExecutable) (storage : Option (List (ScVal × ScVal)))
  | ledgerKeyContractInstance
  | ledgerKeyNonce (nonce : Int64)

/-- The discriminant `switch().value` of an `SCVal`. -/
def ScVal.discriminant : ScVal → ℕ
  | bool _ => 0
  | void => 1
  | error _ _ => 2
  | u32 _ => 3
  | i32 _ => 4
  | u64 _ => 5
  | i64 _ => 6
  | timepoint _ => 7
  | duration _ => 8
  | u128 _ => 9
  | i128 _ => 10
  | u256 _ => 11
  | i256 _ => 12
  | bytes _ => 13
  | string _ => 14
  | symbol _ => 15
  | vec _ => 16
  | map _ => 17
  | address _ => 18
  | contractInstance _ _ => 19
  | ledgerKeyContractInstance => 20
  | ledgerKeyNonce _ => 21

/-- The arguments of a contract call. -/
structure InvokeContractArgs where
  contractAddress : ScAddress
  functionName : Bytes
  args : List ScVal

/-- An `Asset`; codes are padded with zero bytes to their fixed length. -/
inductive Asset where
  | native
  | creditAlphanum4 (code : BytesN 4) (issuer : BytesN 32)
  | creditAlphanum12 (code : BytesN 12) (issuer : BytesN 32)

/-- A `ContractIDPreimage`. -/
inductive ContractIdPreimage where
  | fromAddress (address : ScAddress) (salt : BytesN 32)
  | fromAsset (asset : Asset)

/-- `CreateContractArgs`. -/
structure CreateContractArgs where
  contractIdPreimage : ContractIdPreimage
  executable : ContractExecutable

/-- `CreateContractArgsV2`: the constructor arguments are named too. -/
structure CreateContractArgsV2 where
  contractIdPreimage : ContractIdPreimage
  executable : ContractExecutable
  constructorArgs : List ScVal

/-- A `SorobanAuthorizedFunction`. -/
inductive SorobanAuthorizedFunction where
  | contractFn (args : InvokeContractArgs)
  | createContractHostFn (args : CreateContractArgs)
  | createContractV2HostFn (args : CreateContractArgsV2)

/-- A `SorobanAuthorizedInvocation`: the tree of calls one authorization covers. -/
inductive SorobanAuthorizedInvocation where
  | node (function : SorobanAuthorizedFunction) (subInvocations : List SorobanAuthorizedInvocation)

/-- The call at the root of an invocation tree. -/
def SorobanAuthorizedInvocation.function : SorobanAuthorizedInvocation → SorobanAuthorizedFunction
  | node function _ => function

/-- The calls directly below the root of an invocation tree. -/
def SorobanAuthorizedInvocation.subInvocations :
    SorobanAuthorizedInvocation → List SorobanAuthorizedInvocation
  | node _ subInvocations => subInvocations

/-- `SorobanAddressCredentials`. -/
structure SorobanAddressCredentials where
  address : ScAddress
  nonce : Int64
  signatureExpirationLedger : UInt32
  signature : ScVal

/-- `SorobanCredentials`. The delegate signatures of the last arm are not read. -/
inductive SorobanCredentials where
  | sourceAccount
  | address (credentials : SorobanAddressCredentials)
  | addressV2 (credentials : SorobanAddressCredentials)
  | addressWithDelegates (addressCredentials : SorobanAddressCredentials)

/-- The name of the credential type, as `switch().name` gives it. -/
def SorobanCredentials.switchName : SorobanCredentials → String
  | sourceAccount => "sorobanCredentialsSourceAccount"
  | address _ => "sorobanCredentialsAddress"
  | addressV2 _ => "sorobanCredentialsAddressV2"
  | addressWithDelegates _ => "sorobanCredentialsAddressWithDelegates"

/-- A `SorobanAuthorizationEntry`. -/
structure SorobanAuthorizationEntry where
  credentials : SorobanCredentials
  rootInvocation : SorobanAuthorizedInvocation

/-- A `HostFunction`. -/
inductive HostFunction where
  | invokeContract (args : InvokeContractArgs)
  | createContract (args : CreateContractArgs)
  | uploadContractWasm (wasm : Bytes)
  | createContractV2 (args : CreateContractArgsV2)

/-- The two `HashIDPreimage` arms that Soroban authorizations are hashed under. -/
inductive HashIdPreimage where
  | sorobanAuthorization (networkId : BytesN 32) (nonce : Int64)
      (signatureExpirationLedger : UInt32) (invocation : SorobanAuthorizedInvocation)
  | sorobanAuthorizationWithAddress (networkId : BytesN 32) (nonce : Int64)
      (signatureExpirationLedger : UInt32) (address : ScAddress)
      (invocation : SorobanAuthorizedInvocation)

end SmartAccountKit
