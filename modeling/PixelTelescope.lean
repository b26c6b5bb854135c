import PixelTelescope.Act
import PixelTelescope.Assignment.Basic
import PixelTelescope.Assignment.Configured
import PixelTelescope.Assignment.Resolve
import PixelTelescope.Beam.Congruential
import PixelTelescope.Beam.Crossing
import PixelTelescope.Beam.Events
import PixelTelescope.Beam.Generator
import PixelTelescope.Bounds
import PixelTelescope.CommandLine.Arguments
import PixelTelescope.CommandLine.Command
import PixelTelescope.CommandLine.Files
import PixelTelescope.Config.Basic
import PixelTelescope.Config.Checked
import PixelTelescope.Config.Dump
import PixelTelescope.Config.Issue
import PixelTelescope.Config.Kinds
import PixelTelescope.Config.Load
import PixelTelescope.Config.Sections
import PixelTelescope.Decimal.Binary
import PixelTelescope.Decimal.Layout
import PixelTelescope.Decimal.Shortest
import PixelTelescope.Disk.Basic
import PixelTelescope.Disk.Path
import PixelTelescope.Event.Builder
import PixelTelescope.Event.Hit
import PixelTelescope.Event.PixelType
import PixelTelescope.Event.Record
import PixelTelescope.Event.Settings
import PixelTelescope.Event.Truth
import PixelTelescope.Failure
import PixelTelescope.Gear.Document
import PixelTelescope.Gear.Export
import PixelTelescope.Gear.Text
import PixelTelescope.Geometry.Configured
import PixelTelescope.Geometry.Detector
import PixelTelescope.Geometry.Field
import PixelTelescope.Geometry.FieldKind
import PixelTelescope.Geometry.Registry
import PixelTelescope.Geometry.Rotation
import PixelTelescope.Job.Basic
import PixelTelescope.Job.Run
import PixelTelescope.Job.Source
import PixelTelescope.Json.Reader
import PixelTelescope.Json.Text
import PixelTelescope.Json.Writer
import PixelTelescope.Keyed
import PixelTelescope.Log
import PixelTelescope.Main
import PixelTelescope.Markup.Basic
import PixelTelescope.Markup.Dashes
import PixelTelescope.Pool.Process
import PixelTelescope.Pool.Workers
import PixelTelescope.Run.Content
import PixelTelescope.Run.File
import PixelTelescope.Run.Group
import PixelTelescope.Run.HitMap
import PixelTelescope.Run.Key
import PixelTelescope.Run.Picture
import PixelTelescope.Run.Reader
import PixelTelescope.Run.Session
import PixelTelescope.Run.Stage
import PixelTelescope.Run.Stored
import PixelTelescope.Scalar
import PixelTelescope.Table.Column
import PixelTelescope.Table.Events
import PixelTelescope.Table.Grid
import PixelTelescope.Table.Layout
import PixelTelescope.Table.Number
import PixelTelescope.Table.Read
import PixelTelescope.Table.Row
import PixelTelescope.Table.Sheet
import PixelTelescope.Tensor.Basic
import PixelTelescope.Tensor.Value
import PixelTelescope.Text.Blank
import PixelTelescope.Text.DecimalDigit
import PixelTelescope.Text.Hex
import PixelTelescope.Text.Identifier
import PixelTelescope.Text.Newline
import PixelTelescope.Text.Numeral
import PixelTelescope.Text.Printable
import PixelTelescope.Text.Quoted
import PixelTelescope.Toml.Draft
import PixelTelescope.Toml.Number
import PixelTelescope.Toml.Quote
import PixelTelescope.Toml.Reader
import PixelTelescope.Toml.Scan
import PixelTelescope.Toml.Time
import PixelTelescope.Units
import PixelTelescope.Value.Basic
import PixelTelescope.Value.Display
import PixelTelescope.Value.Moment
import PixelTelescope.Writer.Basic
import PixelTelescope.Writer.Process
import PixelTelescope.Proofs.Keyed
import PixelTelescope.Proofs.Run.Key
import PixelTelescope.Proofs.Json.Texts
import PixelTelescope.Proofs.Run.Group
import PixelTelescope.Proofs.Outcome
import PixelTelescope.Proofs.Run.Reading
import PixelTelescope.Proofs.Run.Listed
import PixelTelescope.Proofs.Run.Store
import PixelTelescope.Proofs.Run.Event
import PixelTelescope.Proofs.Run.Append
import PixelTelescope.Proofs.Run.Written
import PixelTelescope.Proofs.Assignment.Names
import PixelTelescope.Proofs.Run.Built
import PixelTelescope.Proofs.Disk.Path
import PixelTelescope.Proofs.Disk.Write
import PixelTelescope.Proofs.Run.Desk
import PixelTelescope.Proofs.Act
import PixelTelescope.Proofs.Run.RoundTrip
import PixelTelescope.Proofs.Pool.Account
import PixelTelescope.Proofs.Pool.Ending
import PixelTelescope.Proofs.Pool.Batches
import PixelTelescope.Proofs.Run.Leftover
import PixelTelescope.Proofs.Writer.Write
import PixelTelescope.Proofs.Writer.Stored
import PixelTelescope.Proofs.Pool.Serial
import PixelTelescope.Proofs.Writer.Threads
import PixelTelescope.Proofs.Writer.Ending
import PixelTelescope.Proofs.Run.Calls
import PixelTelescope.Proofs.Run.Monitor
import PixelTelescope.Proofs.Distinct
import PixelTelescope.Proofs.Event.Placed
import PixelTelescope.Proofs.Event.Matches
import PixelTelescope.Proofs.Event.Joins
import PixelTelescope.Proofs.Assignment.Coverage
import PixelTelescope.Proofs.Event.Accepted
import PixelTelescope.Proofs.Table.Events
import PixelTelescope.Proofs.Table.Cast
import PixelTelescope.Proofs.Table.Read
import PixelTelescope.Proofs.Table.Conserved
import PixelTelescope.Proofs.Run.Frame
import PixelTelescope.Proofs.Job.TableRun
import PixelTelescope.Proofs.Assignment.Rows
import PixelTelescope.Proofs.Assignment.Table
import PixelTelescope.Proofs.Assignment.Apart
import PixelTelescope.Proofs.Writer.Kept
import PixelTelescope.Proofs.Event.Sensors
import PixelTelescope.Proofs.Gear.Layers
import PixelTelescope.Proofs.Writer.Layers
import PixelTelescope.Proofs.Writer.Beside
import PixelTelescope.Proofs.Job.Supply
import PixelTelescope.Proofs.Job.Aborted
import PixelTelescope.Proofs.Writer.Finished
import PixelTelescope.Proofs.Reals
import PixelTelescope.Proofs.Event.Reordered
import PixelTelescope.Proofs.Event.OrderFree
import PixelTelescope.Proofs.Geometry.Angles
import PixelTelescope.Proofs.Gear.Rotation
import PixelTelescope.Proofs.Config.Accepted
import PixelTelescope.Proofs.Config.Reported
import PixelTelescope.Proofs.Geometry.Orientation
import PixelTelescope.Proofs.Gear.Configured
import PixelTelescope.Proofs.Markup.Scan
import PixelTelescope.Proofs.Markup.Reads
import PixelTelescope.Proofs.Markup.Dashes
import PixelTelescope.Proofs.Markup.Written
import PixelTelescope.Proofs.Gear.Remark
import PixelTelescope.Proofs.Gear.Structure
import PixelTelescope.Proofs.Decimal.Truncated
import PixelTelescope.Proofs.Event.Routed
import PixelTelescope.Proofs.Beam.Crossing
import PixelTelescope.Proofs.Beam.Drawn
import PixelTelescope.Proofs.Event.Grid
import PixelTelescope.Proofs.Beam.Exact
import PixelTelescope.Proofs.Beam.Longer
import PixelTelescope.Proofs.Job.Longer
import PixelTelescope.Proofs.Run.HitMap
import PixelTelescope.Proofs.Run.Charted
import PixelTelescope.Proofs.Run.Opening
import PixelTelescope.Proofs.Gear.Shaped
import PixelTelescope.Proofs.Gear.Described
import PixelTelescope.Proofs.Extended
import PixelTelescope.Proofs.Geometry.Proper
import PixelTelescope.Proofs.Pool.LookAhead
import PixelTelescope.Proofs.Writer.LookAhead
import PixelTelescope.Proofs.Table.Contiguous
import PixelTelescope.Proofs.Geometry.Frame
import PixelTelescope.Proofs.Event.Points
import PixelTelescope.Proofs.Beam.Backward
import PixelTelescope.Proofs.Assignment.Given
import PixelTelescope.Proofs.Event.Widths
import PixelTelescope.Proofs.Config.Settled
import PixelTelescope.Proofs.Assignment.Cells
import PixelTelescope.Proofs.Event.Centres
import PixelTelescope.Proofs.Gear.Named
