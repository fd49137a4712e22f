import LoadLadder.Crew.Contest
import LoadLadder.Crew.Ring
import LoadLadder.Document.Json.Reader
import LoadLadder.Main
import LoadLadder.Proofs.ActivationGate
import LoadLadder.Proofs.ActivationOrder
import LoadLadder.Proofs.ByteNumerals
import LoadLadder.Proofs.CanonicalTrace
import LoadLadder.Proofs.CauseReplays
import LoadLadder.Proofs.DebuggerProtocol
import LoadLadder.Proofs.Departures
import LoadLadder.Proofs.DocumentValues
import LoadLadder.Proofs.DomainIsolation
import LoadLadder.Proofs.EntryContention
import LoadLadder.Proofs.ForeignDependencies
import LoadLadder.Proofs.HookedRuns
import LoadLadder.Proofs.LevelOrder
import LoadLadder.Proofs.LoadOutcomes
import LoadLadder.Proofs.ManifestDefects
import LoadLadder.Proofs.ManifestOrder
import LoadLadder.Proofs.NestedLatches
import LoadLadder.Proofs.NestedLoads
import LoadLadder.Proofs.OwedNotices
import LoadLadder.Proofs.ParallelLoads
import LoadLadder.Proofs.ReentrantLoads
import LoadLadder.Proofs.Registries
import LoadLadder.Proofs.RepeatedLoads
import LoadLadder.Proofs.ReportCoherence
import LoadLadder.Proofs.RootCauses
import LoadLadder.Proofs.SingleNotices
import LoadLadder.Proofs.StoredCause
import LoadLadder.Proofs.SubStepOrder
import LoadLadder.Proofs.TolerantChecks
import LoadLadder.Script.Session
