import Toolbench.Cli.Run
import Toolbench.Main
import Toolbench.Proofs.Conversation.Dispatch
import Toolbench.Proofs.Conversation.History
import Toolbench.Proofs.Conversation.Recording
import Toolbench.Proofs.Json.Members
import Toolbench.Proofs.Json.Schema
import Toolbench.Proofs.Tool.Declaration
import Toolbench.Proofs.Tool.Schema
import Toolbench.Proofs.Tool.Preparation
import Toolbench.Proofs.Url.Authority
import Toolbench.Proofs.Url.Depth
import Toolbench.Proofs.Url.Reading
import Toolbench.Proofs.Environment.Expansion
import Toolbench.Proofs.Invocation.Address
import Toolbench.Proofs.Url.Dots
import Toolbench.Proofs.Invocation.Segment
import Toolbench.Proofs.Json.Grammar
import Toolbench.Proofs.Json.Numeral
import Toolbench.Proofs.Json.Writing
import Toolbench.Proofs.Invocation.Placement
import Toolbench.Proofs.Invocation.Quoting
import Toolbench.Proofs.Invocation.Body
import Toolbench.Proofs.Registry.Catalog
import Toolbench.Proofs.Script.Declaration
import Toolbench.Proofs.Script.Evaluation
import Toolbench.Proofs.Files.Listing
import Toolbench.Proofs.Files.Order
import Toolbench.Proofs.Script.Directory
import Toolbench.Proofs.Script.Loading
import Toolbench.Proofs.Template.Filling
import Toolbench.Proofs.Invocation.Command
import Toolbench.Proofs.Invocation.Coverage
import Toolbench.Proofs.Registry.Sharing
import Toolbench.Proofs.Invocation.Variables
import Toolbench.Proofs.Tool.Conformance
import Toolbench.Proofs.Template.Reading
import Toolbench.Proofs.Template.Span
import Toolbench.Proofs.Invocation.Opacity
import Toolbench.Proofs.Conversation.Turns
import Toolbench.Proofs.Conversation.Replay
import Toolbench.Proofs.Conversation.State
import Toolbench.Proofs.Files.Removal
import Toolbench.Proofs.Script.Deletion
import Toolbench.Proofs.Tool.Stability
import Toolbench.Proofs.Decimal.Digits
import Toolbench.Proofs.Decimal.Nearest
import Toolbench.Proofs.Tool.Spelling
import Toolbench.Proofs.Json.NumberReading
import Toolbench.Proofs.Json.RoundTrip
import Toolbench.Proofs.Json.Fitting
import Toolbench.Proofs.Conversation.Reply
import Toolbench.Proofs.Conversation.Results
import Toolbench.Proofs.Template.Site
import Toolbench.Proofs.Text.PercentReading
import Toolbench.Proofs.Invocation.Encoding
import Toolbench.Proofs.Registry.Batch
import Toolbench.Proofs.Script.Command
import Toolbench.Proofs.Template.Grouping
import Toolbench.Proofs.Script.Accounting
import Toolbench.Proofs.Script.Calls
import Toolbench.Proofs.Adapter.Capture
import Toolbench.Proofs.Invocation.PlainText
import Toolbench.Proofs.Invocation.Header
import Toolbench.Proofs.Conversation.Message
import Toolbench.Proofs.Config.Layers
import Toolbench.Proofs.Invocation.Scanning
import Toolbench.Proofs.Url.Endpoint
