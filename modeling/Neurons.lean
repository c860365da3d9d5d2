import Neurons.Embedding.BoundedChunks
import Neurons.Embedding.Canonical
import Neurons.Embedding.Effects
import Neurons.Embedding.Leases
import Neurons.Embedding.LocalOutbox
import Neurons.Embedding.Machine
import Neurons.Embedding.Pending
import Neurons.Embedding.Ready
import Neurons.Embedding.ReferenceHost
import Neurons.Embedding.Search
import Neurons.Embedding.Transactions
import Neurons.Graph.Episode
import Neurons.Graph.Join
import Neurons.Graph.Resolve
import Neurons.Graph.Worker
import Neurons.Ingress.Acceptance
import Neurons.Ingress.CrashSafety
import Neurons.Ingress.Delivery
import Neurons.Ingress.DeliveryJobs
import Neurons.Ingress.Duplicates
import Neurons.Ingress.Exclusion
import Neurons.Ingress.Moves
import Neurons.Ingress.Poison
import Neurons.Ingress.Selection
import Neurons.Ingress.StateDb
import Neurons.Ingress.Terminal
import Neurons.Ingress.Wire
import Neurons.Journal.Coordinator
import Neurons.Journal.Quarantine
import Neurons.Journal.Resume
import Neurons.Json
import Neurons.JsonSize
import Neurons.Ledger.Paramstyle
import Neurons.Lib.Attempts
import Neurons.Lib.Base64
import Neurons.Lib.Covering
import Neurons.Lib.Decimal
import Neurons.Lib.Dict
import Neurons.Lib.Extremum
import Neurons.Lib.FifoTable
import Neurons.Lib.Indexed
import Neurons.Lib.Lease
import Neurons.Lib.Lines
import Neurons.Lib.Lockstep
import Neurons.Lib.Loop
import Neurons.Lib.Paging
import Neurons.Lib.Program
import Neurons.Lib.Rely
import Neurons.Lib.Run
import Neurons.Lib.Sorting
import Neurons.Lib.Trim
import Neurons.Lib.Utf8
import Neurons.Lib.VerifiedJoin
import Neurons.Outbox.Attempts
import Neurons.Outbox.EmbeddingOutbox
import Neurons.Outbox.GraphOutbox
import Neurons.Outbox.Leases
import Neurons.Outbox.NoLostWork
import Neurons.Outbox.ReferenceGemini
import Neurons.Queue.Backed
import Neurons.Queue.Enqueue
import Neurons.Queue.Intake
import Neurons.Replay.Convergence
import Neurons.Replay.EventReplay
import Neurons.Replay.GraphReplay
import Neurons.Replay.Rerun
import Neurons.SessionMemory.Chunking
import Neurons.SessionMemory.Layout
import Neurons.SessionMemory.Overlap
import Neurons.SessionMemory.ProjectLabels
import Neurons.SessionMemory.Splitting
import Neurons.Source.Activation
import Neurons.Source.Backfill
import Neurons.Source.Builders
import Neurons.Source.Bundler
import Neurons.Source.Compaction
import Neurons.Source.ControlPlane
import Neurons.Source.Copies
import Neurons.Source.Coverage
import Neurons.Source.Currentness
import Neurons.Source.DocumentModel
import Neurons.Source.Evidence
import Neurons.Source.EvidencePacker
import Neurons.Source.HttpStore
import Neurons.Source.Immutability
import Neurons.Source.LastGood
import Neurons.Source.PayloadIdentity
import Neurons.Source.PinnedRevision
import Neurons.Source.Platform
import Neurons.Source.Projection
import Neurons.Source.Publication
import Neurons.Source.Receipts
import Neurons.Source.ReferencePlatform
import Neurons.Source.Representation
import Neurons.Source.Resolution
import Neurons.Source.Retention
import Neurons.Source.Revisionless
import Neurons.Source.Revisions
import Neurons.Source.SessionBounds
import Neurons.Source.SnapshotResolver
import Neurons.Source.SourceHash
import Neurons.Source.SourceRevision
import Neurons.Source.SourceStore
import Neurons.Source.Standing
import Neurons.Source.StoreParity
import Neurons.Source.StoreProgram
import Neurons.Source.TemporalRepair
import Neurons.Source.Validation
import Neurons.Source.WriteEffects
import Neurons.Steward.Authority
import Neurons.Steward.BundleRefinement
import Neurons.Steward.Card
import Neurons.Steward.ContextPayload
import Neurons.Steward.Effects
import Neurons.Steward.ExactlyOnce
import Neurons.Steward.GraphProjection
import Neurons.Steward.Listing
import Neurons.Steward.Members
import Neurons.Steward.OffsetPages
import Neurons.Steward.Operations
import Neurons.Steward.Pages
import Neurons.Steward.Progress
import Neurons.Steward.ProjectionHealth
import Neurons.Steward.Recall
import Neurons.Steward.ReferenceRun
import Neurons.Steward.ReviewBundle
import Neurons.Steward.Service
import Neurons.Steward.SlimPages
import Neurons.Steward.SlimSerializer
import Neurons.Steward.Store
import Neurons.Steward.Transitions
import Neurons.Steward.Trimming
import Neurons.Steward.ValidityWindow
