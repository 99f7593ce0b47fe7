import Instrumentation.Agent
import Instrumentation.Agent.Start
import Instrumentation.Ambient.OperationId
import Instrumentation.Ambient.Slots
import Instrumentation.Ambient.Work
import Instrumentation.BuiltIn
import Instrumentation.Config.FilePath
import Instrumentation.Config.FileTree
import Instrumentation.Config.Load
import Instrumentation.Config.LoadError
import Instrumentation.Config.Rules
import Instrumentation.Config.Types
import Instrumentation.Config.Written
import Instrumentation.Decimal.Nearest
import Instrumentation.Decimal.Shortest
import Instrumentation.Dispatch.Failure
import Instrumentation.Dispatch.Filter
import Instrumentation.Dispatch.Metrics
import Instrumentation.Dispatch.Router
import Instrumentation.Dispatch.Submission
import Instrumentation.Document
import Instrumentation.Event
import Instrumentation.Event.HttpCall
import Instrumentation.Event.Kind
import Instrumentation.Event.Notification
import Instrumentation.Event.Throwable
import Instrumentation.Event.Written
import Instrumentation.Hook
import Instrumentation.Hook.Action
import Instrumentation.Json.Document
import Instrumentation.Json.Number
import Instrumentation.Json.Printer
import Instrumentation.Json.Text
import Instrumentation.Json.Value
import Instrumentation.Logging
import Instrumentation.Outline
import Instrumentation.Pattern
import Instrumentation.Pattern.Automaton
import Instrumentation.Pattern.Automaton.Ledger
import Instrumentation.Pattern.Automaton.Sets
import Instrumentation.Pattern.Automaton.Words
import Instrumentation.Pattern.Bracket
import Instrumentation.Pattern.CharClass
import Instrumentation.Pattern.Encoding
import Instrumentation.Pattern.Escape
import Instrumentation.Pattern.Reading
import Instrumentation.Pattern.Shape
import Instrumentation.Pattern.Term
import Instrumentation.Plan
import Instrumentation.Registry.Basic
import Instrumentation.Registry.Configure
import Instrumentation.Registry.Discover
import Instrumentation.Registry.Match
import Instrumentation.Registry.Metrics
import Instrumentation.Report
import Instrumentation.Rule
import Instrumentation.Scenario.Answer
import Instrumentation.Scenario.Context
import Instrumentation.Scenario.Host
import Instrumentation.Scenario.Report
import Instrumentation.Scenario.Run
import Instrumentation.Scenario.Step
import Instrumentation.SetupError
import Instrumentation.ShownText
import Instrumentation.Table
import Instrumentation.Unicode.Age
import Instrumentation.Unicode.BinaryProperty
import Instrumentation.Unicode.CaseFolding
import Instrumentation.Unicode.GeneralCategory
import Instrumentation.Unicode.GraphemeBreak
import Instrumentation.Unicode.LaterVersion
import Instrumentation.Unicode.RangeSet
import Instrumentation.Unicode.Ranges
import Instrumentation.Unicode.Script
import Instrumentation.Unicode.ScriptExtension
import Instrumentation.Unicode.SentenceBreak
import Instrumentation.Unicode.WordBreak
import Instrumentation.UnitIndex
import Instrumentation.UnitKind
import Instrumentation.UnitName
import Instrumentation.Yaml.Cursor
import Instrumentation.Yaml.Document
import Instrumentation.Yaml.Jump
import Instrumentation.Yaml.Node
import Instrumentation.Yaml.Node.Parser
import Instrumentation.Yaml.Plain
import Instrumentation.Yaml.Printer
import Instrumentation.Yaml.Token
import Instrumentation.Yaml.Token.Lexer
import Instrumentation.Yaml.Token.Property
import Instrumentation.Yaml.Token.Scalar
import Instrumentation.Proofs.Machine
import Instrumentation.Proofs.Registry.Effect
import Instrumentation.Proofs.Registry.Action
import Instrumentation.Proofs.Registry.Call
import Instrumentation.Proofs.Registry.Exclusion
import Instrumentation.Proofs.Agent.Call
import Instrumentation.Proofs.Agent.ConsumingPlan
import Instrumentation.Proofs.Registry.LastRule
import Instrumentation.Proofs.Registry.Configuration
import Instrumentation.Proofs.Agent.Configuration
import Instrumentation.Proofs.Agent.Reading
import Instrumentation.Proofs.Dispatch.Submission
import Instrumentation.Proofs.Dispatch.Traffic
import Instrumentation.Proofs.Dispatch.Isolation
import Instrumentation.Proofs.Dispatch.Routing
import Instrumentation.Proofs.Registry.Index
import Instrumentation.Proofs.Agent.Attribution
import Instrumentation.Proofs.Table
import Instrumentation.Proofs.Agent.Verdict
import Instrumentation.Proofs.Agent.ProbeOrder
import Instrumentation.Proofs.Config.Faults
import Instrumentation.Proofs.Agent.Reconfiguration
import Instrumentation.Proofs.Json.Altered
import Instrumentation.Proofs.Config.Written
import Instrumentation.Proofs.Ambient.Handoff
import Instrumentation.Proofs.HookTable
import Instrumentation.Proofs.Registry.Splitting
import Instrumentation.Proofs.Dispatch.Reception
import Instrumentation.Proofs.Json.Whole
import Instrumentation.Proofs.Json.Same
import Instrumentation.Proofs.Event.Written
import Instrumentation.Proofs.Registry.Discovery
import Instrumentation.Proofs.Ambient.Wrapping
import Instrumentation.Proofs.Ambient.Unwinding
import Instrumentation.Proofs.Ambient.Polling
import Instrumentation.Proofs.Dispatch.Snapshot
import Instrumentation.Proofs.Registry.Accounting
import Instrumentation.Proofs.Config.FileTree
import Instrumentation.Proofs.Config.Source
import Instrumentation.Proofs.Json.Token
import Instrumentation.Proofs.Json.Rendered
import Instrumentation.Proofs.Json.Piece
import Instrumentation.Proofs.Agent.Start
import Instrumentation.Proofs.Registry.Reach
import Instrumentation.Proofs.Registry.Bypass
import Instrumentation.Proofs.Agent.Pairing
import Instrumentation.Proofs.Pattern.Locality
import Instrumentation.Proofs.Pattern.Escape
import Instrumentation.Proofs.Pattern.Bracket
import Instrumentation.Proofs.Pattern.Group
import Instrumentation.Proofs.Pattern.Body
import Instrumentation.Proofs.Pattern.WholeName
import Instrumentation.Proofs.Agent.Threshold
