import AgentProof.Lib.Positional
import AgentProof.Lib.BucketLimit
import AgentProof.Lib.TokenLedger
import AgentProof.Lib.Transaction
import AgentProof.Lib.OrderedMap
import AgentProof.Lib.Places
import AgentProof.Lib.KeyedSum
import AgentProof.Lib.Binary64
import AgentProof.Lib.Runs
import AgentProof.Lib.Readable
import AgentProof.Lib.Base64
import AgentProof.Lib.FoldM
import AgentProof.Lib.Counted
import AgentProof.Lib.Alike
import AgentProof.Lib.Knowledge
import AgentProof.Lib.Roles
import AgentProof.Lib.ExpiringSet
import AgentProof.Lib.CellLoop
import AgentProof.Lib.Keccak
import AgentProof.Lib.Utf8
import AgentProof.Lib.WireName
import AgentProof.Evm.Calldata
import AgentProof.Evm.AbiDecode
import AgentProof.Contracts.PolicyLib
import AgentProof.Contracts.ExecutionLib
import AgentProof.Contracts.AgentPolicyHook
import AgentProof.Contracts.Token
import AgentProof.Contracts.World
import AgentProof.Contracts.Limits
import AgentProof.Contracts.Allowlist
import AgentProof.Contracts.AssetGuard
import AgentProof.Contracts.Transfers
import AgentProof.Contracts.SpendEvents
import AgentProof.Contracts.MockErc20
import AgentProof.Contracts.SpendRange
import AgentProof.Contracts.Remaining
import AgentProof.Ens.Resolver
import AgentProof.Ens.Registrar
import AgentProof.Ens.Authority
import AgentProof.Ens.Outsiders
import AgentProof.Ens.Control
import AgentProof.Sdk.Text
import AgentProof.Sdk.Types
import AgentProof.Sdk.Hex
import AgentProof.Sdk.Policies
import AgentProof.Sdk.Decode
import AgentProof.Sdk.UniswapV4
import AgentProof.Sdk.Registry
import AgentProof.Sdk.RefusedDecoder
import AgentProof.Sdk.Readings
import AgentProof.Sdk.V4Deltas
import AgentProof.Sdk.V4Params
import AgentProof.Sdk.CommandStream
import AgentProof.Sdk.Encode
import AgentProof.Sdk.RouterRecipients
import AgentProof.Sdk.Allowances
import AgentProof.Sdk.StreamMeaning
import AgentProof.Sdk.Compositional
import AgentProof.Sdk.SwapInputs
import AgentProof.Sdk.SingleSwap
import AgentProof.Sdk.V2Paths
import AgentProof.Sdk.Coherence
import AgentProof.Sdk.NativeValue
import AgentProof.Sdk.Commitments
import AgentProof.Sdk.Redaction
import AgentProof.Sdk.RedactedText
import AgentProof.Sdk.RouterLoops
import AgentProof.Sdk.RouterWords
import AgentProof.Sdk.Policy
import AgentProof.Sdk.Transfers
import AgentProof.Sdk.Unbounded
import AgentProof.Sdk.SameBytes
import AgentProof.Sdk.LetterCase
import AgentProof.Sdk.Arguments
import AgentProof.Sdk.EngineSpec
import AgentProof.Sdk.Json
import AgentProof.Sdk.GraphState
import AgentProof.Sdk.GraphStateRuns
import AgentProof.Sdk.Tightening
import AgentProof.Sdk.Execute
import AgentProof.Sdk.ExecuteSteps
import AgentProof.Sdk.ExecuteRuns
import AgentProof.Sdk.ExecuteAuthority
import AgentProof.Sdk.DecisionLog
import AgentProof.Sdk.MemoryState
import AgentProof.Sdk.Startup
import AgentProof.Sdk.CanonicalJson
import AgentProof.Subgraph.Mapping
import AgentProof.Subgraph.Indexing
import AgentProof.Subgraph.History
import AgentProof.Agreement.Verdicts
import AgentProof.Agreement.InstallScript
import AgentProof.Sdk.Privacy
import AgentProof.Sdk.Approval
import AgentProof.Sdk.OwnerSignature
import AgentProof.Sdk.StaleApprovals
import AgentProof.Sdk.Dashboard
import AgentProof.Sdk.Pools
import AgentProof.Sdk.PoolProvider
import AgentProof.Sdk.Simulated
import AgentProof.Sdk.SimulatedReverts
import AgentProof.Sdk.SimulatedSpelling
import AgentProof.Agreement.Allowlists
import AgentProof.Agreement.SingleExecution
import AgentProof.Api.Replay
import AgentProof.Api.Gate
import AgentProof.Api.GateOrder
import AgentProof.Api.PaymentReuse
import AgentProof.Api.Routes
import AgentProof.Api.Server
import AgentProof.Api.Requests
import AgentProof.Api.PoolPair
import AgentProof.Api.RequestSteps
import AgentProof.Api.ServerSteps
import AgentProof.Api.Publishing
import AgentProof.Api.AuditTrail
import AgentProof.Api.PolicyPatch
import AgentProof.Api.PolicyEdits
import AgentProof.Api.Sessions
import AgentProof.Api.HcsAudit
import AgentProof.Api.ReplayRuns
import AgentProof.Api.SpendAgreement
import AgentProof.Sdk.Amounts
import AgentProof.Api.AtomicUnits
import AgentProof.Console.Usdc
import AgentProof.Sdk.Keccak
import AgentProof.Sdk.KeccakRounds
import AgentProof.Sdk.KeccakSponge
import AgentProof.Sdk.EnsIdentity
import AgentProof.Sdk.DnsNames
import AgentProof.Agreement.PublishedHash
import AgentProof.Sdk.ProofRegistry
import AgentProof.Scripts.ParseSmtOutput
import AgentProof.Agreement.ProofFlags
import AgentProof.Sdk.Numbers
import AgentProof.X402.Client
import AgentProof.X402.SignedAmount
import AgentProof.Lib.ServerSentEvents
import AgentProof.Lib.Sifted
import AgentProof.Api.Stream
import AgentProof.Api.StreamDelivery
import AgentProof.Console.Stream
import AgentProof.Agreement.OperatorView
import AgentProof.Contracts.PolicySpec
import AgentProof.Lib.TtlCache
import AgentProof.Sdk.Freshness
import AgentProof.Agreement.KillSwitch
import AgentProof.Agreement.DirectCall
import AgentProof.Agreement.SimulatedChain
import AgentProof.Api.Escalation
import AgentProof.Lib.Dialogue
import AgentProof.Sdk.Executors
import AgentProof.Sdk.Broadcasts
import AgentProof.Agreement.ExecutedCall
