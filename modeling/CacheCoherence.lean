import CacheCoherence.Cluster.Console
import CacheCoherence.Frame.Sequence
import CacheCoherence.Json.Forms
import CacheCoherence.Proofs.Requests
import CacheCoherence.Text.Hex
import CacheCoherence.Proofs.ServerRun
import CacheCoherence.Proofs.Registry
import CacheCoherence.Proofs.SessionLifecycle
import CacheCoherence.Proofs.HeldValues
import CacheCoherence.Proofs.DirectoryTable
import CacheCoherence.Proofs.DirectoryLevels
import CacheCoherence.Proofs.Sharding
import CacheCoherence.Proofs.CommitHistory
import CacheCoherence.Proofs.Arrival
import CacheCoherence.Proofs.ResponseFormat
import CacheCoherence.Proofs.Stream
import CacheCoherence.Proofs.Interleaving
import CacheCoherence.Proofs.Utf8
import CacheCoherence.Proofs.Word
import CacheCoherence.Proofs.Reader
import CacheCoherence.Proofs.Batch
import CacheCoherence.Proofs.RequestFormat
import CacheCoherence.Proofs.Completions
import CacheCoherence.Proofs.QueueSteps
import CacheCoherence.Proofs.QueueRun
import CacheCoherence.Proofs.QueueConservation
import CacheCoherence.Proofs.QueueOrder
import CacheCoherence.Proofs.QueueStream
import CacheCoherence.Proofs.ChannelSteps
import CacheCoherence.Proofs.Dialogue
import CacheCoherence.Proofs.ServerRegistry
import CacheCoherence.Proofs.Publications
import CacheCoherence.Proofs.Switchboard
import CacheCoherence.Proofs.ConnectionSteps
import CacheCoherence.Proofs.RegisteredHolders
import CacheCoherence.Proofs.EndedSessions
import CacheCoherence.Proofs.ChannelTurns
import CacheCoherence.Proofs.Visit
import CacheCoherence.Proofs.VisitReturn
import CacheCoherence.Proofs.QueueHandover
import CacheCoherence.Proofs.QueueFailure
import CacheCoherence.Proofs.QueueStall
import CacheCoherence.Proofs.CutStream
import CacheCoherence.Proofs.CompletionOrder
import CacheCoherence.Proofs.QueueTranscript
import CacheCoherence.Proofs.SessionCourse
import CacheCoherence.Proofs.ConnectionOutcome
import CacheCoherence.Proofs.QueueTurns
import CacheCoherence.Proofs.FarewellEnd
import CacheCoherence.Proofs.Holdings
import CacheCoherence.Proofs.Conduct
import CacheCoherence.Proofs.StoredSizes
import CacheCoherence.Proofs.CallsAndFrames
import CacheCoherence.Proofs.SparedLevels
import CacheCoherence.Proofs.Conveyance
import CacheCoherence.Proofs.ReleasesUnderway
import CacheCoherence.Proofs.RecordedLevels
import CacheCoherence.Proofs.BindingWalk
import CacheCoherence.Proofs.BatchLaws
import CacheCoherence.Proofs.BindingScan
import CacheCoherence.Proofs.FaultText
import CacheCoherence.Proofs.CommitDecision
import CacheCoherence.Proofs.ReportedOutcomes
import CacheCoherence.Proofs.Prefixes
import CacheCoherence.Proofs.UsableSettings
import CacheCoherence.Proofs.JsonForms
import CacheCoherence.Proofs.FieldSequence
import CacheCoherence.Proofs.ThreadsAlone
import CacheCoherence.Proofs.ThreadOrder
