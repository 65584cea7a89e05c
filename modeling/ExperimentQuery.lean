import ExperimentQuery.Datasource
import ExperimentQuery.Main
import ExperimentQuery.Store.Repository
import ExperimentQuery.Proofs.Interpreter.Capture
import ExperimentQuery.Proofs.Interpreter.History
import ExperimentQuery.Proofs.Interpreter.Outcome
import ExperimentQuery.Proofs.Script.Meaning
import ExperimentQuery.Proofs.Json.Same
import ExperimentQuery.Proofs.Script.Blocks
import ExperimentQuery.Proofs.Script.Simulation
import ExperimentQuery.Proofs.Plan.Comparisons
import ExperimentQuery.Proofs.Validation.AggregateFilter
import ExperimentQuery.Proofs.Validation.Rules
import ExperimentQuery.Proofs.Validation.Session
import ExperimentQuery.Proofs.Ordered
import ExperimentQuery.Proofs.Interpreter.Grouping
import ExperimentQuery.Proofs.Interpreter.Included
import ExperimentQuery.Proofs.Interpreter.Independence
import ExperimentQuery.Proofs.Interpreter.Merging
import ExperimentQuery.Proofs.Interpreter.Totals
import ExperimentQuery.Proofs.Interpreter.Partition
import ExperimentQuery.Proofs.Interpreter.Timing
import ExperimentQuery.Proofs.Interpreter.Arrival
import ExperimentQuery.Proofs.Interpreter.Batches
import ExperimentQuery.Proofs.Decimal.Digits
import ExperimentQuery.Proofs.Decimal.Bits
import ExperimentQuery.Proofs.Decimal.Whole
import ExperimentQuery.Proofs.Time.Calendar
import ExperimentQuery.Proofs.Time.Text
import ExperimentQuery.Proofs.Json.Form
import ExperimentQuery.Proofs.Metric.Document
import ExperimentQuery.Proofs.Json.Record
import ExperimentQuery.Proofs.Metric.Revision
import ExperimentQuery.Proofs.Metric.Idempotence
import ExperimentQuery.Proofs.Store.Catalog
import ExperimentQuery.Proofs.Store.Request
import ExperimentQuery.Proofs.Store.Agreement
import ExperimentQuery.Proofs.Store.History
import ExperimentQuery.Proofs.Store.Outcome
import ExperimentQuery.Proofs.Store.Protection
import ExperimentQuery.Proofs.Store.Atomicity
import ExperimentQuery.Proofs.Store.Writes
import ExperimentQuery.Proofs.Store.Race
import ExperimentQuery.Proofs.Store.Ownership
import ExperimentQuery.Proofs.Script.Lines
import ExperimentQuery.Proofs.Script.Remarks
import ExperimentQuery.Proofs.Script.Quoting
import ExperimentQuery.Proofs.Script.Unquoting
import ExperimentQuery.Proofs.Script.Skeleton
import ExperimentQuery.Proofs.Script.Literals
import ExperimentQuery.Proofs.Script.DecimalLiteral
import ExperimentQuery.Proofs.Script.TextNumber
import ExperimentQuery.Proofs.Script.NumberText
import ExperimentQuery.Proofs.Script.Conditions
import ExperimentQuery.Proofs.Script.Grammar
import ExperimentQuery.Proofs.Script.Precedence
import ExperimentQuery.Proofs.Interpreter.FirstDays
import ExperimentQuery.Proofs.Decimal.Value
import ExperimentQuery.Proofs.Decimal.Nearest
import ExperimentQuery.Proofs.Plan.Grammar
import ExperimentQuery.Proofs.Plan.Lenient
import ExperimentQuery.Proofs.Decimal.Rounding
import ExperimentQuery.Proofs.Metric.Lengths
import ExperimentQuery.Proofs.Experiment.Overrides
import ExperimentQuery.Proofs.Experiment.Placeholders
import ExperimentQuery.Proofs.Rows
import ExperimentQuery.Proofs.Settings.Environment
import ExperimentQuery.Proofs.Credentials.Sealing
import ExperimentQuery.Proofs.Json.Text
import ExperimentQuery.Proofs.Credentials.Params
import ExperimentQuery.Proofs.Experiment.Naming
import ExperimentQuery.Proofs.Plan.ColumnText
