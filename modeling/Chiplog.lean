import Chiplog.AgentLoop.ContinuationJoin
import Chiplog.AgentLoop.LeaseSafety
import Chiplog.AgentLoop.RunChain
import Chiplog.AgentLoop.RunDisclosure
import Chiplog.AgentLoop.TurnBudget
import Chiplog.Calendar.Evidence
import Chiplog.Composition.DeploymentCap
import Chiplog.Composition.DisclosureAgreement
import Chiplog.Composition.DiscoveryPaging
import Chiplog.Composition.HistoryPaging
import Chiplog.Composition.LocalInbox
import Chiplog.Composition.OverflowAgreement
import Chiplog.DeploymentTrust.JournalRuns
import Chiplog.DeploymentTrust.Replays
import Chiplog.DeploymentTrust.WorkerAnswers
import Chiplog.Effects.AssertedOutcomes
import Chiplog.Effects.ReadBack
import Chiplog.Effects.ReducerAgreement
import Chiplog.Effects.RetransmissionLineage
import Chiplog.EvidenceJournal.Paging
import Chiplog.EvidenceJournal.Replies
import Chiplog.Platform.BlockedRebase
import Chiplog.Platform.CheckpointRoundTrip
import Chiplog.Platform.CustodyReserve
import Chiplog.Platform.GateReplay
import Chiplog.Platform.IssuedOperations
import Chiplog.Platform.LogStore
import Chiplog.Platform.Quarantine
import Chiplog.Projections.ConversationHistory
import Chiplog.Projections.PlanningRebuild
import Chiplog.Projections.WorkspaceRuns
