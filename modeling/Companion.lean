import Companion.Command.Directory
import Companion.Command.Execute
import Companion.Command.Line
import Companion.Decimal
import Companion.Declaration.Basic
import Companion.Declaration.Json
import Companion.Declaration.Source
import Companion.Hierarchy.Assignable
import Companion.Hierarchy.Basic
import Companion.Hierarchy.View
import Companion.Host
import Companion.HostType.Basic
import Companion.HostType.Parser
import Companion.Json.Problem
import Companion.Json.Reader
import Companion.Json.Skip
import Companion.Json.Token
import Companion.Json.Value
import Companion.Main
import Companion.Naming
import Companion.Planning.Access
import Companion.Planning.Capability
import Companion.Planning.Model
import Companion.Planning.Plan
import Companion.Planning.Rejection
import Companion.Planning.Resolution
import Companion.Planning.Run
import Companion.Report.Listing
import Companion.Report.PlanJson
import Companion.Report.PlanSummary
import Companion.Text.CharClass
import Companion.Text.Outline
import Companion.Text.Quoted
import Companion.Text.UpperCase
import Companion.Universe
import Companion.Vocabulary.Operation
import Companion.Vocabulary.Platform
import Companion.Vocabulary.Primitive
import Companion.Proofs.Hierarchy.WellDeclared
import Companion.Proofs.Hierarchy.Assignable
import Companion.Proofs.Hierarchy.Declare
import Companion.Proofs.Planning.Catalog
import Companion.Proofs.Planning.DecisionList
import Companion.Proofs.Planning.Access
import Companion.Proofs.Planning.RawUse
import Companion.Proofs.Planning.FieldChecks
import Companion.Proofs.Planning.Acceptance
import Companion.Proofs.Planning.Objections
import Companion.Proofs.Planning.Diagnostics
import Companion.Proofs.Text.CharClass
import Companion.Proofs.HostType.Grammar
import Companion.Proofs.HostType.Scan
import Companion.Proofs.HostType.Reading
import Companion.Proofs.HostType.Spelling
import Companion.Proofs.Hierarchy.Grounds
import Companion.Proofs.Hierarchy.Instances
import Companion.Proofs.Hierarchy.Entries
import Companion.Proofs.Hierarchy.Reach
import Companion.Proofs.Hierarchy.PlatformTypes
import Companion.Proofs.Hierarchy.Redeclaration
import Companion.Proofs.Planning.CompanionNames
import Companion.Proofs.Planning.HelperNames
import Companion.Proofs.Hierarchy.Clauses
import Companion.Proofs.Hierarchy.Routes
import Companion.Proofs.Planning.Reordering
import Companion.Proofs.Hierarchy.Strangers
import Companion.Proofs.Planning.Bystanders
import Companion.Proofs.Planning.Isolation
import Companion.Proofs.Command.Verdict
import Companion.Proofs.Declaration.Reread
import Companion.Proofs.Json.Unambiguity
import Companion.Proofs.Except
import Companion.Proofs.Json.Grammar
import Companion.Proofs.Json.Printing
import Companion.Proofs.Json.Reading
import Companion.Proofs.Json.Records
import Companion.Proofs.Json.Answers
import Companion.Proofs.Report.Lossless
import Companion.Proofs.Planning.Inheritance
import Companion.Proofs.Planning.Profile
import Companion.Proofs.Planning.SharedKeys
import Companion.Proofs.Planning.Faults
import Companion.Proofs.Planning.UsableMembers
import Companion.Proofs.HostType.Stopping
import Companion.Proofs.Hierarchy.Scope
import Companion.Proofs.Hierarchy.Questions
import Companion.Proofs.Text.ByteOrder
import Companion.Proofs.Hierarchy.Record
import Companion.Proofs.HostType.Composition
import Companion.Proofs.Report.PlanSummary
import Companion.Proofs.Planning.ContainerKeys
