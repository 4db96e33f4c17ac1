import Conformance.Act
import Conformance.Checked
import Conformance.CommandLine.Arguments
import Conformance.CommandLine.Command
import Conformance.CommandLine.FileName
import Conformance.CommandLine.Options
import Conformance.Descriptor.Basic
import Conformance.Descriptor.Build
import Conformance.Descriptor.Navigate
import Conformance.Descriptor.Render
import Conformance.Descriptor.Written
import Conformance.Error
import Conformance.Example.Battle
import Conformance.Expr
import Conformance.Failure
import Conformance.Format.Json
import Conformance.Format.Json.Written
import Conformance.Format.Yaml.Node
import Conformance.Format.Yaml.Scalar
import Conformance.Format.Yaml.Token
import Conformance.Generate
import Conformance.Invariant.Basic
import Conformance.Invariant.Blame
import Conformance.Invariant.Report
import Conformance.Invariant.Runner
import Conformance.Library
import Conformance.Log
import Conformance.Log.Line
import Conformance.Main
import Conformance.Mismatch
import Conformance.Number.Exact
import Conformance.Number.Reading
import Conformance.Number.Shortest
import Conformance.Number.Written
import Conformance.Path
import Conformance.Proofs.Act
import Conformance.Proofs.Checked.Layers
import Conformance.Proofs.Checked.MessageLength
import Conformance.Proofs.Checked.Rejection
import Conformance.Proofs.CommandLine.Command
import Conformance.Proofs.Descriptor.Built
import Conformance.Proofs.Descriptor.Checks
import Conformance.Proofs.Descriptor.Leaves
import Conformance.Proofs.Descriptor.Outcome
import Conformance.Proofs.Descriptor.Readable
import Conformance.Proofs.Descriptor.Request
import Conformance.Proofs.Descriptor.Unnamed
import Conformance.Proofs.Descriptor.WellFormed
import Conformance.Proofs.Example.Battle
import Conformance.Proofs.Example.Damage
import Conformance.Proofs.Example.Matchup
import Conformance.Proofs.Expr
import Conformance.Proofs.Generate.Accepts
import Conformance.Proofs.Generate.Canonical
import Conformance.Proofs.Generate.Integer
import Conformance.Proofs.Generate.Number
import Conformance.Proofs.Generate.PointUpdate
import Conformance.Proofs.Generate.Record
import Conformance.Proofs.Generate.Redraw
import Conformance.Proofs.Generate.Unsupported
import Conformance.Proofs.Invariant.Attribution
import Conformance.Proofs.Invariant.Blame
import Conformance.Proofs.Invariant.Calls
import Conformance.Proofs.Invariant.Fields
import Conformance.Proofs.Invariant.Names
import Conformance.Proofs.Invariant.Search
import Conformance.Proofs.Invariant.Stream
import Conformance.Proofs.Invariant.Telling
import Conformance.Proofs.Invariant.Trial
import Conformance.Proofs.Invariant.Trials
import Conformance.Proofs.Invariant.Tuple
import Conformance.Proofs.Invariant.Verdict
import Conformance.Proofs.Number.Double
import Conformance.Proofs.Number.Exact
import Conformance.Proofs.Number.Nearest
import Conformance.Proofs.Number.Round
import Conformance.Proofs.Path
import Conformance.Proofs.Random.Draw
import Conformance.Proofs.Random.Packed
import Conformance.Proofs.Random.Reachable
import Conformance.Proofs.Random.Uniform
import Conformance.Proofs.Run
import Conformance.Proofs.Script.Deeds
import Conformance.Proofs.Script.FailFast
import Conformance.Proofs.Script.LoadFailure
import Conformance.Proofs.Session.Accounting
import Conformance.Proofs.Session.Declare
import Conformance.Proofs.Session.Deeds
import Conformance.Proofs.Session.FailFast
import Conformance.Proofs.Settings.Environment
import Conformance.Proofs.Settings.Merge
import Conformance.Proofs.Text.Reading
import Conformance.Proofs.Traced
import Conformance.Proofs.Validate.Admits
import Conformance.Proofs.Validate.Arrangement
import Conformance.Proofs.Validate.Diagnosis
import Conformance.Proofs.Validate.Location
import Conformance.Proofs.Validate.Navigate
import Conformance.Proofs.Validate.Place
import Conformance.Proofs.Validate.Precedence
import Conformance.Proofs.Value.Brief
import Conformance.Proofs.Value.Same
import Conformance.Random.Draw
import Conformance.Random.Twister
import Conformance.Reporter
import Conformance.Run
import Conformance.Script.Check
import Conformance.Script.Statement
import Conformance.Script.Workspace
import Conformance.Session
import Conformance.Settings
import Conformance.Settings.Environment
import Conformance.Settings.Field
import Conformance.Settings.Load
import Conformance.Settings.Merge
import Conformance.Settings.Section
import Conformance.Summary
import Conformance.Text.Blank
import Conformance.Text.Case
import Conformance.Text.Digit
import Conformance.Text.Lower
import Conformance.Text.Printable
import Conformance.Text.Quoted
import Conformance.Traced
import Conformance.Validate
import Conformance.Value.Arithmetic
import Conformance.Value.Basic
import Conformance.Value.Brief
import Conformance.Value.Order
import Conformance.Value.Written
import Conformance.Proofs.Invariant.Coin
