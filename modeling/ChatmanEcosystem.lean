import ChatmanEcosystem.Gall.DigestBinding
import ChatmanEcosystem.Commerce.Atomicity
import ChatmanEcosystem.Commerce.TamperEvidence
import ChatmanEcosystem.Commerce.ReceiptFold
import ChatmanEcosystem.Commerce.Settlement
import ChatmanEcosystem.Hditc.Replay
import ChatmanEcosystem.Hditc.JournalRuns
import ChatmanEcosystem.Governor.SingleFlight
import ChatmanEcosystem.Console.OverageMarker
import ChatmanEcosystem.Console.OverageCharges
import ChatmanEcosystem.Console.AuditIntegrity
import ChatmanEcosystem.Console.ReferralCredits
import ChatmanEcosystem.Console.InvoiceReconciliation
import ChatmanEcosystem.Console.OneSubscription
import ChatmanEcosystem.Console.LegalHoldPurge
import ChatmanEcosystem.Console.AuditExport
import ChatmanEcosystem.Console.ResaleConservation
import ChatmanEcosystem.Console.IpAllowlist
import ChatmanEcosystem.Console.SuspendedQuotas
import ChatmanEcosystem.Console.Downtime
import ChatmanEcosystem.Console.FreezeWindowWrites
import ChatmanEcosystem.Console.ApprovalDecisions
import ChatmanEcosystem.Console.OrgSettings
import ChatmanEcosystem.Store.Interleavings
import ChatmanEcosystem.AgentLightning.TenantIsolation
import ChatmanEcosystem.AgentLightning.RestoredIdentities
import ChatmanEcosystem.Dfcm.Frontier
import ChatmanEcosystem.RootCrown.LocalReceipts
import ChatmanEcosystem.ReleaseTrain.CrossProductAlive
import ChatmanEcosystem.Topology.Records
import ChatmanEcosystem.Topology.Cleanup
import ChatmanEcosystem.Detectors.Hysteresis
import ChatmanEcosystem.Replicas.Qualification
import ChatmanEcosystem.ProcessTrace.PartialOrder
import ChatmanEcosystem.Kantorovich.Certificate
import ChatmanEcosystem.Gall.Gateway
import ChatmanEcosystem.RootCrown.FixedPoint
import ChatmanEcosystem.ReleaseTrain.RecoveryTransitions
import ChatmanEcosystem.ReleaseTrain.SupersessionGaps
import ChatmanEcosystem.ReleaseTrain.RecoveryQuorum
import ChatmanEcosystem.ReleaseTrain.StrictMajority
import ChatmanEcosystem.ReleaseTrain.EvidenceSelection
import ChatmanEcosystem.ReleaseTrain.EvidenceLineages
import ChatmanEcosystem.ReleaseTrain.PowlOracle
import ChatmanEcosystem.ReleaseTrain.RiskIntervals
import ChatmanEcosystem.Console.RateLimit
import ChatmanEcosystem.ReleaseTrain.DependencyOrders
import ChatmanEcosystem.Hditc.Unknowns
import ChatmanEcosystem.Gall.Report
import ChatmanEcosystem.Hditc.CarrierBinding
import ChatmanEcosystem.Gall.DataOnlySections
import ChatmanEcosystem.Gall.Echo
import ChatmanEcosystem.ReleaseTrain.ManifestExactness
import ChatmanEcosystem.PremiseImport.ImportsCheck
import ChatmanEcosystem.AgentLightning.JobKeys
import ChatmanEcosystem.RootCrown.Campaign
import ChatmanEcosystem.RootCrown.JsonPointers
import ChatmanEcosystem.RootCrown.GitTrees
import ChatmanEcosystem.Dfcm.EvidenceHeads
import ChatmanEcosystem.RootCrown.ReceiptChain
import ChatmanEcosystem.Gall.Sha256
import ChatmanEcosystem.Console.OrgInvites
import ChatmanEcosystem.Console.PatchSlaCredits
