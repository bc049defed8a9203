import SmartAccountKit.Xdr.Encoding

/-!
# Transaction envelopes

What the SDK gives for the envelope of a transaction: its hash, its source and
fee, its operations and, of a Soroban transaction, the resources it declares.
-/

namespace SmartAccountKit
open Lib

/-- An operation. Of the types other than a host function call only the name is read. -/
inductive TransactionOperation where
  | invokeHostFunction (source : Option String) (func : HostFunction)
      (auth : List SorobanAuthorizationEntry)
  | other (source : Option String) (type : String)

/-- The function of a host function call. -/
def TransactionOperation.func? : TransactionOperation → Option HostFunction
  | invokeHostFunction _ func _ => some func
  | other _ _ => none

/-- The arguments of a `CreateContractV2` host function. -/
def HostFunction.createContractV2? : HostFunction → Option CreateContractArgsV2
  | createContractV2 args => some args
  | _ => none

/-- The arguments of an operation that creates a contract. -/
def TransactionOperation.createContractV2? (operation : TransactionOperation) :
    Option CreateContractArgsV2 :=
  operation.func?.bind HostFunction.createContractV2?

/-- The Soroban data that a transaction declares: its resource fee and the keys of its footprint,
each as its encoding. -/
structure SorobanTransactionData where
  resourceFee : Int64
  readOnly : List Bytes
  readWrite : List Bytes

/-- A transaction, with the hash that its signatures are for. -/
structure DecodedTransaction where
  hash : BytesN 32
  source : String
  fee : ℕ
  operations : List TransactionOperation
  signatures : List Bytes
  sorobanData : Option SorobanTransactionData

/-- The transaction of an envelope, or a fee bump around one. -/
inductive DecodedEnvelope where
  | transaction (tx : DecodedTransaction)
  | feeBump (hash : BytesN 32) (innerTransaction : DecodedTransaction)

/-- The hash of an envelope. -/
def DecodedEnvelope.hash : DecodedEnvelope → BytesN 32
  | transaction tx => tx.hash
  | feeBump hash _ => hash

/-- The transaction whose operations are run. -/
def DecodedEnvelope.innerTransaction : DecodedEnvelope → DecodedTransaction
  | transaction tx => tx
  | feeBump _ innerTransaction => innerTransaction

end SmartAccountKit
