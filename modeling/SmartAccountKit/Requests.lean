import SmartAccountKit.AuthDigest
import SmartAccountKit.ContextRules
import SmartAccountKit.ContractErrors
import SmartAccountKit.Lib.Program

/-!
# What the kit asks of its environment

The authenticators, wallets, keys, network services and callbacks that a
signing run talks to. A request to sign a digest also names what the digest was
computed from, and a check of a signer at what stage it is made; that is a record of
the run, and what signs sees the digest only.
-/

namespace SmartAccountKit
open Lib

/-! ## Data of the requests -/

/-- A local signer object: the identity it signs as, and a number that tells objects with one
identity apart. -/
structure AuthDigestSigner where
  ref : ℕ
  signer : Signer
deriving DecidableEq

/-- The arguments that a digest was computed from. -/
structure DigestArgs where
  networkPassphrase : String
  entry : SorobanAuthorizationEntry
  expiration : JsNumber
  contextRuleIds : List JsNumber
  scheme : AuthDigestScheme

/-- `computeEntryAuthDigest` of the arguments. -/
def DigestArgs.compute (args : DigestArgs) :
    Except JsError (SorobanAuthorizationEntry × EntryAuthDigest) :=
  computeEntryAuthDigest args.networkPassphrase args.entry args.expiration args.contextRuleIds
    args.scheme

/-- The response of an authenticator, in base64url text. -/
structure AuthenticationResponse where
  signature : String
  authenticatorData : String
  clientDataJSON : String

/-- A source account. -/
structure Account where
  accountId : String
  sequence : ℤ

/-- A transaction with one invoke-host-function operation. -/
structure Transaction where
  source : Account
  func : HostFunction
  auth : List SorobanAuthorizationEntry
  signatures : List String

/-- The outcome of a simulation. -/
inductive SimulationResponse where
  | error (message : String)
  | success (auth : List SorobanAuthorizationEntry)

/-- A way to submit a transaction. -/
inductive SubmissionMethod where
  | rpc
  | relayer
deriving DecidableEq

/-- The outcome of a submission. A failure has the hash of the transaction if it got one. -/
inductive TransactionResult where
  | success (hash : String) (ledger : Option JsNumber := none)
  | failure (error : JsError) (hash : Option String := none)

/-- What a run is doing when it writes to the log or checks a signer: it offers signers to select
from, it checks the selection before its `try`, or it signs. -/
inductive SigningStage where
  | offer
  | selection
  | signing
deriving DecidableEq

/-! ## Requests -/

/-- A request of the kit. -/
inductive Request where
  | signAuthDigest (signer : AuthDigestSigner) (authDigest : BytesN 32) (args : DigestArgs)
  | startAuthentication (challenge credentialId : String) (args : DigestArgs)
  | signEd25519Digest (publicKey : Bytes) (authDigest : BytesN 32) (args : DigestArgs)
  | walletSignAuthEntry (preimage : HashIdPreimage) (address : String) (args : Option DigestArgs)
  | onLog (stage : SigningStage) (message : String)
  | canSignFor (stage : SigningStage) (address : String)
  | canSignEd25519 (stage : SigningStage) (publicKey : Bytes)
  | getLatestLedger
  | getContractInstance (contractId : String)
  | getContractDetailsFromIndexer (contractId : String)
  | readContextRule (contextRuleId : UInt32)
  | resolveContextRuleIds (entry : SorobanAuthorizationEntry) (index : ℕ)
  | randomAuthEntryNonce
  | updateCredential (credentialId : String)
  | getAccount (publicKey : String)
  | simulateTransaction (transaction : Transaction)
  | sendAndPoll (transaction : Transaction) (forceMethod : Option SubmissionMethod)

/-- What a request is answered with. -/
abbrev Reply : Request → Type
  | .signAuthDigest _ _ _ => Except JsError Bytes
  | .startAuthentication _ _ _ => Except JsError AuthenticationResponse
  | .signEd25519Digest _ _ _ => Except JsError Bytes
  | .walletSignAuthEntry _ _ _ => Except JsError String
  | .onLog _ _ => Except JsError Unit
  | .canSignFor _ _ => Except JsError Bool
  | .canSignEd25519 _ _ => Except JsError Bool
  | .getLatestLedger => Except JsError UInt32
  | .getContractInstance _ => Except JsError ContractExecutable
  | .getContractDetailsFromIndexer _ => Except JsError (Option (List UInt32))
  | .readContextRule _ => Except JsError ContextRule
  | .resolveContextRuleIds _ _ => Except JsError (List JsNumber)
  | .randomAuthEntryNonce => Int64
  | .updateCredential _ => Except JsError Unit
  | .getAccount _ => Except JsError Account
  | .simulateTransaction _ => Except JsError SimulationResponse
  | .sendAndPoll _ _ => Except JsError TransactionResult

/-- The environment of the kit. -/
abbrev Environment : Interface := { Request := Request, Reply := Reply }

/-- A run of kit code: it makes requests, and ends with a value or a thrown error. -/
abbrev KitProgram (α : Type) := Program Environment JsError α

/-! ## Reading a run -/

/-- What a request is for: a signature of a key, the submission of a transaction, or another
service of the environment. -/
inductive RequestKind where
  | signature
  | service
  | submission
deriving DecidableEq

def Request.kind : Request → RequestKind
  | .signAuthDigest _ _ _ | .startAuthentication _ _ _ | .signEd25519Digest _ _ _
  | .walletSignAuthEntry _ _ _ => .signature
  | .sendAndPoll _ _ => .submission
  | _ => .service

/-- The exchanges of a run in which a key was asked to sign, in order. -/
def signatureExchanges (t : History Environment) : List (Exchange Environment) :=
  t.filter fun e => e.request.kind = .signature

@[simp] theorem signatureExchanges_append (t₁ t₂ : History Environment) :
    signatureExchanges (t₁ ++ t₂) = signatureExchanges t₁ ++ signatureExchanges t₂ :=
  List.filter_append ..

/-- Whether a reply lets the kit go on. A rule that does not exist is not a failure of reading
it. -/
def Request.Accepts : (r : Request) → Reply r → Prop
  | .signAuthDigest _ _ _, reply => reply.isOk = true
  | .startAuthentication _ _ _, reply => reply.isOk = true
  | .signEd25519Digest _ _ _, reply => reply.isOk = true
  | .walletSignAuthEntry _ _ _, reply => reply.isOk = true
  | .onLog _ _, reply => reply.isOk = true
  | .canSignFor _ _, reply => reply = .ok true
  | .canSignEd25519 _ _, reply => reply = .ok true
  | .getLatestLedger, reply => reply.isOk = true
  | .getContractInstance _, reply => reply.isOk = true
  | .getContractDetailsFromIndexer _, reply => reply.isOk = true
  | .readContextRule _, .ok _ => True
  | .readContextRule _, .error e => isMissingContextRuleError e = true
  | .resolveContextRuleIds _ _, reply => reply.isOk = true
  | .randomAuthEntryNonce, _ => True
  | .updateCredential _, reply => reply.isOk = true
  | .getAccount _, reply => reply.isOk = true
  | .simulateTransaction _, reply => ∃ auth, reply = .ok (.success auth)
  | .sendAndPoll _ _, reply => reply.isOk = true

/-- An exchange whose step did not fail. -/
def Succeeded (e : Exchange Environment) : Prop := e.request.Accepts e.reply

/-- A program that asks for no signature and submits nothing; no step of its successful runs
failed. -/
def UsesServices {α ε : Type} (p : Program Environment ε α) : Prop :=
  Program.Exchanges (fun request : Request => request.kind = .service) Succeeded p

theorem UsesServices.signatureExchanges {α ε : Type} {p : Program Environment ε α}
    (hp : UsesServices p) {t : History Environment} {x : Except ε α} (hrun : Program.Run p t x) :
    signatureExchanges t = [] :=
  List.filter_eq_nil_iff.mpr fun e he => by simp [(hp t x hrun e he).1]

/-! ## Steady environments -/

/-- How a steady environment answers: what its signers, its chain and its callbacks give. -/
structure SteadyReplies where
  sign : Signer → BytesN 32 → Except JsError Bytes
  authenticate : String → Except JsError AuthenticationResponse
  wallets : String → Option String
  ledger : UInt32
  instanceExecutable : ContractExecutable
  details : Except JsError (Option (List UInt32))
  rule : UInt32 → Except JsError ContextRule
  resolve : List JsNumber

/-- The replies of a steady environment. -/
def SteadyReplies.reply (s : SteadyReplies) : (r : Request) → Reply r
  | .signAuthDigest signer authDigest _ => s.sign signer.signer authDigest
  | .startAuthentication challenge _ _ => s.authenticate challenge
  | .signEd25519Digest publicKey authDigest _ => s.sign (.external "" publicKey) authDigest
  | .walletSignAuthEntry _ address _ =>
    (s.wallets address).elim (.error (JsError.plain "No signer found")) .ok
  | .onLog _ _ => .ok ()
  | .canSignFor _ address => .ok (s.wallets address).isSome
  | .canSignEd25519 _ _ => .ok true
  | .getLatestLedger => .ok s.ledger
  | .getContractInstance _ => .ok s.instanceExecutable
  | .getContractDetailsFromIndexer _ => s.details
  | .readContextRule contextRuleId => s.rule contextRuleId
  | .resolveContextRuleIds _ _ => .ok s.resolve
  | .randomAuthEntryNonce => 0
  | .updateCredential _ => .ok ()
  | .getAccount publicKey => .ok { accountId := publicKey, sequence := 0 }
  | .simulateTransaction _ => .ok (.success [])
  | .sendAndPoll _ _ => .ok (.success "hash")

theorem length_sampleBytes (n : UInt8) : (List.replicate 32 n).length = 32 := List.length_replicate

/-- A sample hash. -/
def sampleHash (n : UInt8) : BytesN 32 := ⟨List.replicate 32 n, length_sampleBytes n⟩

/-- A sample environment: every key signs by returning the digest, one wallet account can sign,
and rule 0 is a `Default` rule. -/
def sampleReplies : SteadyReplies :=
  { sign := fun _ authDigest => .ok authDigest.1
    authenticate := fun _ => .ok
      { signature := "MAYCAQECAQE", authenticatorData := "AA", clientDataJSON := "AA" }
    wallets := fun address => if address = sampleAccountId 3 then some "AA" else none
    ledger := 50
    instanceExecutable := .wasm (sampleHash 13)
    details := .ok (some [0])
    rule := fun _ => .ok
      { id := 0, contextType := .default, signers := [sampleSigner 1], policies := []
        validUntil := none }
    resolve := [.ofU32 0] }

end SmartAccountKit
