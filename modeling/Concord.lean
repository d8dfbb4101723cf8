import Concord.Status
import Concord.Main
import Concord.Proofs.Freshness
import Concord.Proofs.CycleOutcome
import Concord.Proofs.TrustHistory
import Concord.Proofs.Answering
import Concord.Proofs.Majority
import Concord.Proofs.RateHistory
import Concord.Proofs.ServedTemplate
import Concord.Proofs.TwoRuns
import Concord.Proofs.RoundEvents
import Concord.Proofs.ServingStep
import Concord.Proofs.Course
import Concord.Proofs.RunSafety
import Concord.Proofs.ServedState
import Concord.Proofs.FailuresContained
import Concord.Proofs.PanicGuard
import Concord.Proofs.AskedPeers
import Concord.Proofs.SettingKinds
import Concord.Proofs.LateRefusal
import Concord.Proofs.ConfigRoundTrip
import Concord.Proofs.CorrectionHistory
import Concord.Proofs.StableRank
import Concord.Proofs.ListedClients
import Concord.Proofs.Rehearsal
import Concord.Proofs.DryRun
import Concord.Proofs.FoundPeers
import Concord.Proofs.RoundResult
import Concord.Proofs.DatagramCounts
import Concord.Proofs.EndpointText
import Concord.Proofs.EvictionOrder
import Concord.Proofs.ConfigBounds
import Concord.Proofs.RoundReason
