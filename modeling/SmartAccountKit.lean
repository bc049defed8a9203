import SmartAccountKit.Lib.Digits
import SmartAccountKit.Lib.Comparator
import SmartAccountKit.Lib.Bytes
import SmartAccountKit.Lib.Text
import SmartAccountKit.Lib.Utf8
import SmartAccountKit.Lib.Sha256
import SmartAccountKit.Lib.Program
import SmartAccountKit.Lib.JsNumber
import SmartAccountKit.Lib.Lists
import SmartAccountKit.Lib.Search
import SmartAccountKit.Errors
import SmartAccountKit.ContractErrors
import SmartAccountKit.Xdr.Values
import SmartAccountKit.Lib.XdrCode
import SmartAccountKit.Xdr.Encoding
import SmartAccountKit.Xdr.Structure
import SmartAccountKit.Xdr.Injective
import SmartAccountKit.Address
import SmartAccountKit.Signers
import SmartAccountKit.ScValOrder
import SmartAccountKit.AuthEntry
import SmartAccountKit.AuthPayload
import SmartAccountKit.AuthPayloadTheorems
import SmartAccountKit.AuthDigest
import SmartAccountKit.AuthDigestTheorems
import SmartAccountKit.MutationGuard
import SmartAccountKit.MutationGuardTheorems
import SmartAccountKit.ContextRules
import SmartAccountKit.ContextRulesTheorems
import SmartAccountKit.Requests
import SmartAccountKit.Kit
import SmartAccountKit.CompactSignature
import SmartAccountKit.Passkey
import SmartAccountKit.SignOnly
import SmartAccountKit.SignOnlyTheorems
import SmartAccountKit.SignOnlyFrame
import SmartAccountKit.PasskeyTheorems
import SmartAccountKit.PasskeyFrame
import SmartAccountKit.RuleDiscovery
import SmartAccountKit.MultiSigner
import SmartAccountKit.MultiSignerTheorems
import SmartAccountKit.MultiSignerGuard
import SmartAccountKit.RuleSelection
import SmartAccountKit.MultiSignerSubmission
import SmartAccountKit.RuleAgreement
import SmartAccountKit.Lib.Memory
import SmartAccountKit.Policies
import SmartAccountKit.Xdr.Envelope
import SmartAccountKit.WalletRequests
import SmartAccountKit.Provenance
import SmartAccountKit.Lib.Json
import SmartAccountKit.Connection
import SmartAccountKit.ConnectionTheorems
import SmartAccountKit.ProvenanceTheorems
import SmartAccountKit.ConnectionAddress
import SmartAccountKit.Deployment
import SmartAccountKit.DeploymentHashes
import SmartAccountKit.DeploymentTheorems
import SmartAccountKit.Credentials
import SmartAccountKit.CredentialTheorems
import SmartAccountKit.DeploymentFlows
import SmartAccountKit.PolicyTheorems
import SmartAccountKit.BirthAcceptance
import SmartAccountKit.HostOrder
import SmartAccountKit.PayloadCodec
import SmartAccountKit.RuleAlignment
import SmartAccountKit.Lib.Faults
import SmartAccountKit.ConnectionFaults
import SmartAccountKit.SilentRestore
import SmartAccountKit.Lib.FixedWindow
import SmartAccountKit.RelayerProxy.RateLimiter
import SmartAccountKit.RelayerProxy.RateLimiterTheorems
import SmartAccountKit.RelayerProxy.RateSharing
import SmartAccountKit.Lib.Handler
import SmartAccountKit.TokenAmount
import SmartAccountKit.Submission
import SmartAccountKit.Transfers
import SmartAccountKit.SigningRequests
import SmartAccountKit.Lib.Failures
import SmartAccountKit.SubmissionResults
import SmartAccountKit.Funding
import SmartAccountKit.CompactSignatureTheorems
import SmartAccountKit.TokenAmountTheorems
import SmartAccountKit.Lib.NumberText
import SmartAccountKit.Indexer
import SmartAccountKit.IndexerTheorems
import SmartAccountKit.Lib.HexText
import SmartAccountKit.CredentialQueries
import SmartAccountKit.ContextKeys
import SmartAccountKit.SignerLookups
import SmartAccountKit.WeightedThreshold
import SmartAccountKit.PolicyMaps
import SmartAccountKit.RuleDiscoveryTheorems
import SmartAccountKit.Lib.Base64
import SmartAccountKit.Lib.Objects
import SmartAccountKit.AuthEntryInput
import SmartAccountKit.AuthEntryForms
import SmartAccountKit.ScalarOrder
import SmartAccountKit.Lib.Distinct
import SmartAccountKit.Lib.Requeue
import SmartAccountKit.SignerIdentity
import SmartAccountKit.Lib.Utf16
import SmartAccountKit.WasmHashes
import SmartAccountKit.Lib.LiveSet
import SmartAccountKit.Events
import SmartAccountKit.EventTheorems
import SmartAccountKit.Lib.JsMap
import SmartAccountKit.SignerManager
import SmartAccountKit.Lib.DoubleText
import SmartAccountKit.Lib.JsonText
import SmartAccountKit.Storage.Adapters
import SmartAccountKit.Storage.Recovery
import SmartAccountKit.Storage.Independence
import SmartAccountKit.Storage.Refinement
import SmartAccountKit.Storage.Updates
import SmartAccountKit.ExternalSigners
import SmartAccountKit.StoredWallets
import SmartAccountKit.WalletRestore
import SmartAccountKit.Lib.JsonLength
import SmartAccountKit.Lib.Spaces
import SmartAccountKit.RelayerProxy.ApiKeys
import SmartAccountKit.RelayerProxy.ApiKeyForms
import SmartAccountKit.RelayerProxy.Allowlists
import SmartAccountKit.RelayerProxy.Bodies
import SmartAccountKit.RelayerProxy.XdrMode
import SmartAccountKit.RelayerProxy.HandlerTrace
import SmartAccountKit.DeploymentAdmission
import SmartAccountKit.SharedDeployer
import SmartAccountKit.RecordSurvival
