import TaintTriage.Configuration.Supplied
import TaintTriage.Evidence.Supplied
import TaintTriage.Labeller
import TaintTriage.Log.Call
import TaintTriage.Log.File
import TaintTriage.Proofs.LooseEvidence
import TaintTriage.Proofs.NovelPath
import TaintTriage.Proofs.ShippedQuery
import TaintTriage.Rule
import TaintTriage.Scoring.Script
import TaintTriage.Settings.Load
import TaintTriage.Settings.Text
import TaintTriage.Snapshot.Document
import TaintTriage.Snapshot.Supplied
import TaintTriage.Text.Template
import TaintTriage.Triage
import TaintTriage.Proofs.Extraction
import TaintTriage.Proofs.ListedFlow
import TaintTriage.Proofs.QueryResults
import TaintTriage.Proofs.UntrustedEngine
import TaintTriage.Proofs.CandidateReport
import TaintTriage.Proofs.FinishOrder
import TaintTriage.Proofs.Batches
import TaintTriage.Proofs.ScoreAssignment
import TaintTriage.Proofs.Reload
import TaintTriage.Proofs.FaultReport
import TaintTriage.Proofs.FieldDemand
import TaintTriage.Proofs.MergeLayers
import TaintTriage.Proofs.SettingAlone
import TaintTriage.Proofs.SettingsPriority
import TaintTriage.Proofs.Permits
import TaintTriage.Proofs.BoundedCalls
import TaintTriage.Proofs.LabelOwner
import TaintTriage.Proofs.AuditTrail
import TaintTriage.Proofs.QueryIndependence
import TaintTriage.Proofs.ItemKeys
import TaintTriage.Proofs.AcceptedSpec
import TaintTriage.Proofs.AddedRefinement
import TaintTriage.Proofs.DecidingFields
import TaintTriage.Proofs.QuietEnvironment
import TaintTriage.Proofs.ValueEquality
import TaintTriage.Proofs.SavedSettings
import TaintTriage.Proofs.FailingRule
import TaintTriage.Proofs.EvidenceOrder
import TaintTriage.Proofs.DocumentGrammar
import TaintTriage.Proofs.FlowSteps
import TaintTriage.Proofs.PoolRun
import TaintTriage.Proofs.ReportIndex
import TaintTriage.Proofs.SpecFault
import TaintTriage.Proofs.SeveralTypes
import TaintTriage.Proofs.RepeatedIds
import TaintTriage.Proofs.TagPattern
import TaintTriage.Proofs.Spelling
import TaintTriage.Proofs.RunFailure
import TaintTriage.Proofs.ValidSettings
import TaintTriage.Proofs.KeyEquality
import TaintTriage.Proofs.LeafPath
import TaintTriage.Proofs.Catalog
import TaintTriage.Proofs.ReverseLookup
import TaintTriage.Proofs.BuiltNode
import TaintTriage.Json.Writer
