import SmartAccountKit.Lib.Handler
import SmartAccountKit.MultiSigner
import SmartAccountKit.WalletRequests

/-!
# Sending a transaction

A transaction is given to a relayer or sent over RPC, and then polled until it
is confirmed. Every submission of the kit goes through these network calls; here
they take the place of the one request that stands for them.
-/

namespace SmartAccountKit
open Lib

/-! ## Network calls -/

/-- What an RPC server answers to a transaction: the status `ERROR` with the result of the
transaction, or another status. -/
inductive SendTransactionResponse where
  | error (hash : String) (errorResult : Option String)
  | accepted (hash : String)

/-- What polling a transaction ends with. -/
inductive PollTransactionResponse where
  | success (ledger : Option JsNumber)
  | failed (resultXdr : Option String)
  | notFound

/-- What the simulation of a read ends with: an error, or the number that the returned value
converts to. -/
inductive ReadResponse where
  | error (message : String)
  | success (retval : Option JsNumber)

/-- A call that the contract client has built and simulated. Reading the simulation data throws
where the simulation has failed. -/
structure ContractCall where
  built : Option BuiltTransaction
  simulationError : Option String
  simulatedAuth : Except JsError (Option (List SorobanAuthorizationEntry))

/-- What Friendbot answers. The text of a refusal may fail to load. -/
inductive FriendbotResponse where
  | ok
  | refused (text : Except JsError String)

/-- What the simulation of a funding transfer ends with. -/
inductive FundingSimulation where
  | error (message : String)
  | success (auth : List SorobanAuthorizationEntry) (latestLedger : UInt32)

/-- A request of the kit in which submissions are made of network calls. The call of `sendAndPoll`
itself is a request that is answered with nothing: it shows what is handed over. -/
inductive NetworkRequest where
  | kit (request : Request)
  | sendAndPoll (transaction : Transaction) (forceMethod : Option SubmissionMethod)
  | relayerSend (func : HostFunction) (auth : List SorobanAuthorizationEntry)
  | sendTransaction (transaction : Transaction)
  | pollTransaction (hash : String)
  -- transfers
  | simulateRead (transaction : Transaction)
  | buildWithOp (func : HostFunction) (contractId method : String)
  -- funding
  | randomKeypair
  | fetchFriendbot (address : String)
  | getAccountEntry (address : String)
  | simulateFunding (transaction : Transaction)
  | signWithTempKeypair (payload : BytesN 32)

abbrev NetworkReply : NetworkRequest → Type
  | .kit request => Reply request
  | .sendAndPoll _ _ => Unit
  | .relayerSend _ _ => Except JsError RelayerResponse
  | .sendTransaction _ => Except JsError SendTransactionResponse
  | .pollTransaction _ => Except JsError PollTransactionResponse
  | .simulateRead _ => Except JsError ReadResponse
  | .buildWithOp _ _ _ => Except JsError ContractCall
  | .randomKeypair => BytesN 32
  | .fetchFriendbot _ => Except JsError FriendbotResponse
  | .getAccountEntry _ => Except JsError Int64
  | .simulateFunding _ => Except JsError FundingSimulation
  | .signWithTempKeypair _ => Bytes

abbrev Network : Interface := { Request := NetworkRequest, Reply := NetworkReply }

/-- A run of kit code down to its network calls. -/
abbrev NetworkProgram (α : Type) := Program Network JsError α

/-! ## Failures -/

def failedTransaction (error : JsError) (hash : Option String) : TransactionResult :=
  .failure error (nonEmptyText hash)

/-- `new SubmissionError(message, hash)` with a hash that may be missing. -/
def submissionError (message : String) : Option String → JsError
  | some hash => JsError.submissionWithHash message hash
  | none => JsError.submission message

def submissionFailure (diagnostic : String) (hash : Option String) : TransactionResult :=
  let message := if diagnostic = "" then "Submission failed" else diagnostic
  failedTransaction ((decodeContractError diagnostic).getD (submissionError message hash)) hash

/-! ## Sending -/

/-- The hash that the relayer gives: 64 hexadecimal digits. -/
def relayerTransactionHash (hash : Option String) : Option String :=
  (hash.map trim).filter fun hash =>
    hash.length = 64 ∧ hash.toList.all fun c => (hexValue c).isSome

/-- Give the call to the relayer. The transaction has one invoke-host-function operation; only its
function and its entries are given. The result is the hash, or the failure to report. -/
def sendToRelayer (config : KitConfig) (transaction : Transaction) :
    NetworkProgram (Except TransactionResult String) :=
  if !config.hasRelayer then
    return .error (failedTransaction (JsError.submission "Relayer is not configured") none)
  else do
    let relayerResult ← Program.await (.relayerSend transaction.func transaction.auth) id
    if !relayerResult.success then
      return .error (submissionFailure
        (relayerResult.error.getD "Relayer submission failed") none)
    else
      match relayerTransactionHash relayerResult.hash with
      | some relayerHash => return .ok relayerHash
      | none => return .error (submissionFailure
          "Relayer response did not include a valid transaction hash" none)

/-- Send the envelope over RPC. -/
def sendToRpc (transaction : Transaction) : NetworkProgram (Except TransactionResult String) := do
  match ← Program.await (.sendTransaction transaction) id with
  | .error hash errorResult => return .error (submissionFailure
      (errorResult.getD "Transaction submission failed") (some hash))
  | .accepted hash => return .ok hash

/-- Poll a transaction that was sent. -/
def pollSent (hash : String) : NetworkProgram TransactionResult := do
  match ← Program.await (.pollTransaction hash) id with
  | .success ledger => return .success hash ledger
  | .failed resultXdr =>
    return submissionFailure (((nonEmptyText resultXdr).map fun resultXdr =>
      "Transaction failed on-chain: " ++ resultXdr).getD "Transaction failed on-chain") (some hash)
  | .notFound =>
    let error := JsError.submissionWithHash "Transaction confirmation timed out" hash
    return failedTransaction error (some hash)

/-- Send a transaction by the method. -/
def sendByMethod (config : KitConfig) (transaction : Transaction)
    (forceMethod : Option SubmissionMethod) : NetworkProgram (Except TransactionResult String) :=
  match config.getSubmissionMethod forceMethod with
  | .relayer => sendToRelayer config transaction
  | .rpc => sendToRpc transaction

/-- Send a transaction and poll it. None of its calls is in a `try`. -/
def sendAndPoll (config : KitConfig) (transaction : Transaction)
    (forceMethod : Option SubmissionMethod) : NetworkProgram TransactionResult := do
  match ← sendByMethod config transaction forceMethod with
  | .error failure => return failure
  | .ok hash => pollSent hash

/-- The requests of the kit over the network: a submission is `sendAndPoll`. -/
def KitConfig.network (config : KitConfig) : Handler Environment Network
  | .sendAndPoll transaction forceMethod => do
    Program.await (.sendAndPoll transaction forceMethod) .ok
    Program.attempt (sendAndPoll config transaction forceMethod)
  | request => Program.await (.kit request) .ok

end SmartAccountKit
