import PgmanProxy.Library.Runs
import PgmanProxy.Library.Interleaving
import PgmanProxy.Library.CheckThenAct
import PgmanProxy.Library.FailureStreak
import PgmanProxy.Library.FirstMatch
import PgmanProxy.Library.Alternation
import PgmanProxy.Library.RankedFold
import PgmanProxy.Library.MergeDiff
import PgmanProxy.Library.GoStrings
import PgmanProxy.Library.TextLines
import PgmanProxy.Library.GoBytes
import PgmanProxy.Library.GoJson
import PgmanProxy.Library.GoJsonText
import PgmanProxy.Library.GoJsonStrict
import PgmanProxy.Library.JsonTree
import PgmanProxy.Library.Paging
import PgmanProxy.Library.TimedLoop
import PgmanProxy.Library.Subjects
import PgmanProxy.Library.GoScan
import PgmanProxy.Library.GoNet
import PgmanProxy.Library.GoChannels
import PgmanProxy.PgManager
import PgmanProxy.Validation
import PgmanProxy.Obs.Tracer
import PgmanProxy.Control.Wire
import PgmanProxy.Control.AuditSinks
import PgmanProxy.Control.Auth
import PgmanProxy.Control.Requests
import PgmanProxy.Control.Handlers
import PgmanProxy.Control.Wrap
import PgmanProxy.Control.LeaderRoute
import PgmanProxy.Control.Forwarding
import PgmanProxy.Control.AuditGate
import PgmanProxy.Control.ForwardedExecution
import PgmanProxy.Control.PathAgreement
import PgmanProxy.Control.AuditOnce
import PgmanProxy.History.Stream
import PgmanProxy.History.Queries
import PgmanProxy.History.QueryDeadline
import PgmanProxy.History.Watcher
import PgmanProxy.Control.WatchFrames
import PgmanProxy.Control.WatchHandlers
import PgmanProxy.Control.HistoryResume
import PgmanProxy.Control.HistoryQuery
import PgmanProxy.Control.StatusConvergence
import PgmanProxy.Control.WatchFailure
import PgmanProxy.Control.JoinWindowCheck
import PgmanProxy.Cluster.Events
import PgmanProxy.Fanout.Client
import PgmanProxy.Fanout.Responder
import PgmanProxy.Fanout.Unicast
import PgmanProxy.Fanout.Unreachable
import PgmanProxy.Fanout.Partition
import PgmanProxy.Embedded.ServerOptions
import PgmanProxy.Embedded.Reload
import PgmanProxy.Embedded.Bucket
import PgmanProxy.Embedded.RouteWatcher
import PgmanProxy.Embedded.StoreArchive
import PgmanProxy.Runtime.LeaderState
import PgmanProxy.Runtime.Aggregator
import PgmanProxy.Runtime.Reload
import PgmanProxy.Runtime.ReloadGuarantees
import PgmanProxy.Runtime.ReloadAccuracy
import PgmanProxy.Runtime.StoreBoots
import PgmanProxy.Runtime.ExposedRoutes
import PgmanProxy.Runtime.ReplicationPolicy
import PgmanProxy.Runtime.Shutdown
import PgmanProxy.Runtime.PostgresStop
import PgmanProxy.Runtime.ManagedBlock
import PgmanProxy.Runtime.ManagedBoot
import PgmanProxy.Runtime.BlockLayout
import PgmanProxy.Runtime.BlockGuarantees
import PgmanProxy.Pgmctl.Client
import PgmanProxy.Pgmctl.Config
import PgmanProxy.Pgmctl.ConfigStore
import PgmanProxy.Pgmctl.ContextEdits
import PgmanProxy.Pgmctl.SavedContexts
import PgmanProxy.Pgmctl.Commands
import PgmanProxy.Pgmctl.Pinning
import PgmanProxy.Pgmctl.Loopback
import PgmanProxy.Pgmctl.PromotionTTL
import PgmanProxy.Pgmctl.PromotionWait
import PgmanProxy.Pgmctl.Sse
import PgmanProxy.Pgmctl.CutFrames
import PgmanProxy.Pgmctl.AppendTail
import PgmanProxy.Pgmctl.StatusTail
import PgmanProxy.Pgmctl.StatusFrames
import PgmanProxy.Pgmctl.ReadCommands
import PgmanProxy.Pgmctl.StatusVerdict
import PgmanProxy.Pgmctl.HealthRollup
import PgmanProxy.Pgmctl.LagReport
import PgmanProxy.Pgmctl.ExitCodes
import PgmanProxy.Pgmctl.QuorumVerdicts
import PgmanProxy.Pgmctl.Reconnects
import PgmanProxy.Pgmctl.Explain
import PgmanProxy.Pgmctl.Redact
import PgmanProxy.Pgmctl.RedactOrder
import PgmanProxy.Pgmctl.Correlation
import PgmanProxy.Pgmctl.Dump
import PgmanProxy.Chaos.LossGauge
import PgmanProxy.Chaos.Workload
import PgmanProxy.Library.WorkerPool
import PgmanProxy.Control.ResponderPool
import PgmanProxy.Embedded.StorageMonitor
import PgmanProxy.Runtime.LeaseHandover
import PgmanProxy.History.StreamBootstrap
import PgmanProxy.Library.Assignments
import PgmanProxy.Config.Settings
import PgmanProxy.Config.Loading
import PgmanProxy.Control.DoctorChecks
import PgmanProxy.Control.DoctorCluster
import PgmanProxy.Pgmctl.DoctorReport
import PgmanProxy.Cluster.PeerAddress
import PgmanProxy.Runtime.StandbySignal
import PgmanProxy.Library.GatedProgram
import PgmanProxy.Runtime.Startup
import PgmanProxy.Library.GoUrl
import PgmanProxy.Pgmctl.HistoryCommands
import PgmanProxy.Pgmctl.HistoryPaging
import PgmanProxy.Runtime.SelfRestart
