import Statechart.Callback.Basic
import Statechart.Callback.Overrides
import Statechart.Callback.Registry
import Statechart.Chart.Basic
import Statechart.Chart.Fault
import Statechart.Chart.State
import Statechart.Command.Arguments
import Statechart.Command.Invocation
import Statechart.Command.Report
import Statechart.Command.Run
import Statechart.Config.Basic
import Statechart.Config.Environment
import Statechart.Config.Loading
import Statechart.Config.Printer
import Statechart.Config.Reading
import Statechart.Decimal.Binary64
import Statechart.Decimal.Layout
import Statechart.Decimal.Shortest
import Statechart.Description.Basic
import Statechart.Description.Indented
import Statechart.Description.Markup
import Statechart.Description.Reading
import Statechart.Dict
import Statechart.Digest.Crc32c
import Statechart.Digest.Sha256
import Statechart.Document
import Statechart.Dump.Basic
import Statechart.Dump.Codec
import Statechart.Dump.Frame
import Statechart.Dump.Reading
import Statechart.Error
import Statechart.Files.Path
import Statechart.Files.Tree
import Statechart.Json.Printer
import Statechart.Json.Reading
import Statechart.Json.Tree
import Statechart.Json.Typed
import Statechart.Json.Value
import Statechart.Machine
import Statechart.Main
import Statechart.Pool.Basic
import Statechart.Pool.Error
import Statechart.Pool.Lending
import Statechart.Pool.Options
import Statechart.Pool.Report
import Statechart.Pool.Slot
import Statechart.Pool.Writing
import Statechart.Proofs.Chart.Built
import Statechart.Proofs.Chart.Identity
import Statechart.Proofs.Chart.Table
import Statechart.Proofs.Chart.Validity
import Statechart.Proofs.Command.Progress
import Statechart.Proofs.Command.Sending
import Statechart.Proofs.Command.Splitting
import Statechart.Proofs.Decimal.Rounding
import Statechart.Proofs.Decimal.Shortest
import Statechart.Proofs.Description.Building
import Statechart.Proofs.Description.Comments
import Statechart.Proofs.Description.Data
import Statechart.Proofs.Description.Fields
import Statechart.Proofs.Description.Flattening
import Statechart.Proofs.Description.Flaws
import Statechart.Proofs.Description.Rereading
import Statechart.Proofs.Dict
import Statechart.Proofs.Digest.Crc32c
import Statechart.Proofs.Dump.Acceptance
import Statechart.Proofs.Dump.Codec
import Statechart.Proofs.Dump.Damage
import Statechart.Proofs.Dump.Equality
import Statechart.Proofs.Dump.Framing
import Statechart.Proofs.Dump.Lossless
import Statechart.Proofs.Dump.Reading
import Statechart.Proofs.Files.Making
import Statechart.Proofs.Json.Depth
import Statechart.Proofs.Json.Doubles
import Statechart.Proofs.Json.Equality
import Statechart.Proofs.Json.Fields
import Statechart.Proofs.Json.Pointed
import Statechart.Proofs.Json.Printed
import Statechart.Proofs.Json.Proper
import Statechart.Proofs.Json.Quoted
import Statechart.Proofs.Json.Spelling
import Statechart.Proofs.Json.Whole
import Statechart.Proofs.Pool.Autosave
import Statechart.Proofs.Pool.Choice
import Statechart.Proofs.Pool.Durability
import Statechart.Proofs.Pool.Integrity
import Statechart.Proofs.Pool.Lending
import Statechart.Proofs.Pool.Move
import Statechart.Proofs.Pool.Opened
import Statechart.Proofs.Pool.Order
import Statechart.Proofs.Pool.Recency
import Statechart.Proofs.Pool.Refusal
import Statechart.Proofs.Pool.Restoration
import Statechart.Proofs.Pool.Session
import Statechart.Proofs.Pool.Sparing
import Statechart.Proofs.Pool.Table
import Statechart.Proofs.Pool.Transparency
import Statechart.Proofs.Pool.Tuning
import Statechart.Proofs.Protocol.Blame
import Statechart.Proofs.Protocol.Call
import Statechart.Proofs.Protocol.Chain
import Statechart.Proofs.Protocol.Course
import Statechart.Proofs.Protocol.Engine
import Statechart.Proofs.Protocol.Frame
import Statechart.Proofs.Protocol.Stage
import Statechart.Proofs.Runner.Bare
import Statechart.Proofs.Runner.Chaining
import Statechart.Proofs.Runner.Chronicle
import Statechart.Proofs.Runner.Merging
import Statechart.Proofs.Runner.Nesting
import Statechart.Proofs.Runner.Operation
import Statechart.Proofs.Runner.Ownership
import Statechart.Proofs.Runner.Queries
import Statechart.Proofs.Runner.Representation
import Statechart.Proofs.Runner.Resuming
import Statechart.Proofs.Runner.Untimed
import Statechart.Proofs.Runner.Verification
import Statechart.Proofs.Store.Calls
import Statechart.Proofs.Store.Keeping
import Statechart.Proofs.Store.Listing
import Statechart.Proofs.Store.Naming
import Statechart.Proofs.Store.Refinement
import Statechart.Proofs.Text.Hex
import Statechart.Proofs.Text.Symbols
import Statechart.Proofs.Xml.Elements
import Statechart.Proofs.Xml.Parting
import Statechart.Proofs.Xml.Pieces
import Statechart.Proofs.Xml.Places
import Statechart.Proofs.Xml.Prolog
import Statechart.Runner.Basic
import Statechart.Runner.Engine
import Statechart.Runner.Options
import Statechart.Runner.Report
import Statechart.Store.Basic
import Statechart.Store.Directory
import Statechart.Store.Key
import Statechart.Store.Memory
import Statechart.Store.Options
import Statechart.Text.Blank
import Statechart.Text.Digits
import Statechart.Text.Hex
import Statechart.Text.Quoted
import Statechart.Text.Shapeless
import Statechart.Text.Shown
import Statechart.Text.Utf8
import Statechart.Xml.Content
import Statechart.Xml.Document
import Statechart.Xml.Name
import Statechart.Xml.Node
import Statechart.Yaml.Block
import Statechart.Yaml.Cursor
import Statechart.Yaml.Folded
import Statechart.Yaml.Graph
import Statechart.Yaml.Node
import Statechart.Yaml.Plain
import Statechart.Yaml.Printer
import Statechart.Yaml.Tag
import Statechart.Yaml.Token
import Statechart.Yaml.Typed
