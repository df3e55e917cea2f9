import KairosDeploy.Library.Refusal
import KairosDeploy.Library.Transition
import KairosDeploy.Library.RedisStream
import KairosDeploy.Library.ArithmeticChain
import KairosDeploy.Library.SortedDigest
import KairosDeploy.Library.PyNumber
import KairosDeploy.Library.JsonValue
import KairosDeploy.Library.JsonText
import KairosDeploy.Library.Timestamp
import KairosDeploy.Library.HexDigest
import KairosDeploy.Library.DatabaseRow
import KairosDeploy.Epoch.Contract
import KairosDeploy.Epoch.RuntimeWatermark
import KairosDeploy.Epoch.CatchupPlanning
import KairosDeploy.Epoch.OutboxPublication
import KairosDeploy.Epoch.AuditAnchors
import KairosDeploy.Epoch.ServingLoop
import KairosDeploy.Epoch.ServingOrder
import KairosDeploy.Epoch.ConsumerSubscription
import KairosDeploy.Epoch.HistorySnapshot
import KairosDeploy.Epoch.BootCatchup
import KairosDeploy.Epoch.BootRedisState
import KairosDeploy.Epoch.HistorySeed
import KairosDeploy.RedisAof.RespReader
import KairosDeploy.RedisAof.Inventory
import KairosDeploy.RedisAof.Replay
import KairosDeploy.RedisAof.TransactionPairing
import KairosDeploy.Epoch.BootLease
import KairosDeploy.Primary.Invocations
import KairosDeploy.Library.FaultyProgram
import KairosDeploy.Epoch.LargestBatch
import KairosDeploy.Primary.RemoteArtifacts
import KairosDeploy.Primary.Supervision
import KairosDeploy.Primary.Controller
import KairosDeploy.Primary.TemporaryFiles
import KairosDeploy.Primary.ControllerRuns
import KairosDeploy.Primary.LostDrop
import KairosDeploy.Primary.ControllerReceipt
import KairosDeploy.Primary.ControllerRecords
import KairosDeploy.Drain.SignedReceipt
import KairosDeploy.Drain.PrefixDrain
import KairosDeploy.Receipts.ReceiptWriters
import KairosDeploy.Compose.BaseCompose
import KairosDeploy.Compose.PaperCompose
import KairosDeploy.Library.PyObject
import KairosDeploy.Compose.SharedChecks
import KairosDeploy.Compose.Accepted
import KairosDeploy.Compose.Egress
import KairosDeploy.Compose.LaxModel
import KairosDeploy.Compose.Credentials
import KairosDeploy.Alerts.Qualification
import KairosDeploy.Compose.HostPorts
import KairosDeploy.Compose.Mounts
import KairosDeploy.Cockpit.SnapshotContract
import KairosDeploy.Alerts.StateGate
import KairosDeploy.Alerts.StateGateCleanup
import KairosDeploy.Drain.InspectedPrefix
import KairosDeploy.Drain.ReceiptRoundTrip
import KairosDeploy.Drain.ReceiptReads
import KairosDeploy.Drain.SignedDrain
import KairosDeploy.Drain.ReceiptRedaction
import KairosDeploy.Epoch.SourceWait
import KairosDeploy.RedisAof.RespFraming
import KairosDeploy.Library.PyRounding
import KairosDeploy.Soak.Health
import KairosDeploy.Soak.HealthLimits
import KairosDeploy.Soak.RunSoak
import KairosDeploy.ColdRedis.ReplyGrammar
import KairosDeploy.ColdRedis.ReplyReader
import KairosDeploy.Epoch.ConfirmationRetry
import KairosDeploy.RedisAof.CandidateAcl
import KairosDeploy.ColdRedis.ScanClassification
import KairosDeploy.PaperHistory.CopyFraming
import KairosDeploy.Library.PyQuotient
import KairosDeploy.Soak.SoakAcceptance
import KairosDeploy.Epoch.BootAdmission
import KairosDeploy.Epoch.BootHistory
import KairosDeploy.Compose.SimulatorGate
import KairosDeploy.Epoch.GitBlobs
import KairosDeploy.Epoch.MountSet
import KairosDeploy.ColdRedis.PersistenceLayout
import KairosDeploy.Compose.Interpolation
import KairosDeploy.Primary.ExactQuarantine
import KairosDeploy.Epoch.ColdCopy
import KairosDeploy.Epoch.AdvancedStatus
import KairosDeploy.Buildkit.Transports
import KairosDeploy.Library.PrefixCode
import KairosDeploy.Epoch.OrderedDigest
import KairosDeploy.Primary.TableDigest
import KairosDeploy.Canary.Evaluation
import KairosDeploy.Canary.Acceptance
import KairosDeploy.Canary.ReportTexts
import KairosDeploy.Epoch.CircuitRuns
import KairosDeploy.Epoch.LifecycleStatus
import KairosDeploy.Alerts.Attestation
