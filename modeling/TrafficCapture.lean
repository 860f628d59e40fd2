import TrafficCapture.Assertion
import TrafficCapture.Assertion.Result
import TrafficCapture.Bytes
import TrafficCapture.Config
import TrafficCapture.Config.CommandLine
import TrafficCapture.Control.Connection
import TrafficCapture.Control.Failure
import TrafficCapture.Control.Incoming
import TrafficCapture.Control.Parameters
import TrafficCapture.Control.RequestBody
import TrafficCapture.Control.Route
import TrafficCapture.Control.Service
import TrafficCapture.Exchange
import TrafficCapture.Exchange.Json
import TrafficCapture.Form
import TrafficCapture.Har.Entry
import TrafficCapture.Har.Json
import TrafficCapture.Http.Head
import TrafficCapture.Http.StatusClass
import TrafficCapture.Http.Target
import TrafficCapture.Http.Token
import TrafficCapture.Json.Lexical
import TrafficCapture.Json.Number
import TrafficCapture.Json.Quoted
import TrafficCapture.Json.Reader
import TrafficCapture.Json.Record
import TrafficCapture.Json.Skip
import TrafficCapture.Json.Value
import TrafficCapture.Main
import TrafficCapture.Net.Address
import TrafficCapture.Net.Clock
import TrafficCapture.Net.Peer
import TrafficCapture.Pattern
import TrafficCapture.Pattern.Ast
import TrafficCapture.Pattern.Bracket
import TrafficCapture.Pattern.Escape
import TrafficCapture.Pattern.Meaning
import TrafficCapture.Pattern.Parse
import TrafficCapture.Pattern.Reader
import TrafficCapture.Pattern.Regex
import TrafficCapture.Pattern.Size
import TrafficCapture.Pattern.SyntaxError
import TrafficCapture.Pattern.Track
import TrafficCapture.Proofs.Assertion.Satisfaction
import TrafficCapture.Proofs.Assertion.Summary
import TrafficCapture.Proofs.Bytes.FirstMark
import TrafficCapture.Proofs.Control.Agreement
import TrafficCapture.Proofs.Control.Allowed
import TrafficCapture.Proofs.Control.Patternless
import TrafficCapture.Proofs.Control.Reply
import TrafficCapture.Proofs.Control.Routing
import TrafficCapture.Proofs.Control.Session
import TrafficCapture.Proofs.Control.Stages
import TrafficCapture.Proofs.Control.ValidationOrder
import TrafficCapture.Proofs.Form.Pairs
import TrafficCapture.Proofs.Form.Query
import TrafficCapture.Proofs.Har.Body
import TrafficCapture.Proofs.Har.Size
import TrafficCapture.Proofs.Http.Head
import TrafficCapture.Proofs.Json.Record
import TrafficCapture.Proofs.Json.RoundTrip
import TrafficCapture.Proofs.Json.Scalar
import TrafficCapture.Proofs.Json.Value
import TrafficCapture.Proofs.Net.Delivery
import TrafficCapture.Proofs.Pattern.Anchoring
import TrafficCapture.Proofs.Pattern.Items
import TrafficCapture.Proofs.Pattern.Line
import TrafficCapture.Proofs.Pattern.Matching
import TrafficCapture.Proofs.Pattern.Reading
import TrafficCapture.Proofs.Proxy.Acceptance
import TrafficCapture.Proofs.Proxy.Alike
import TrafficCapture.Proofs.Proxy.Attribution
import TrafficCapture.Proofs.Proxy.Body
import TrafficCapture.Proofs.Proxy.Bound
import TrafficCapture.Proofs.Proxy.Buffer
import TrafficCapture.Proofs.Proxy.Chunked
import TrafficCapture.Proofs.Proxy.Consumption
import TrafficCapture.Proofs.Proxy.Conversation
import TrafficCapture.Proofs.Proxy.Course
import TrafficCapture.Proofs.Proxy.Destination
import TrafficCapture.Proofs.Proxy.Dialogue
import TrafficCapture.Proofs.Proxy.Effect
import TrafficCapture.Proofs.Proxy.Excess
import TrafficCapture.Proofs.Proxy.FieldValues
import TrafficCapture.Proofs.Proxy.Forwarding
import TrafficCapture.Proofs.Proxy.Grammar
import TrafficCapture.Proofs.Proxy.Hall
import TrafficCapture.Proofs.Proxy.Head
import TrafficCapture.Proofs.Proxy.HeadEnd
import TrafficCapture.Proofs.Proxy.Interim
import TrafficCapture.Proofs.Proxy.Limit
import TrafficCapture.Proofs.Proxy.Method
import TrafficCapture.Proofs.Proxy.Recipient
import TrafficCapture.Proofs.Proxy.Record
import TrafficCapture.Proofs.Proxy.Recut
import TrafficCapture.Proofs.Proxy.Request
import TrafficCapture.Proofs.Proxy.Response
import TrafficCapture.Proofs.Proxy.Segmentation
import TrafficCapture.Proofs.Proxy.Service
import TrafficCapture.Proofs.Proxy.Shape
import TrafficCapture.Proofs.Proxy.SizeLine
import TrafficCapture.Proofs.Proxy.Steady
import TrafficCapture.Proofs.Proxy.Steps
import TrafficCapture.Proofs.Proxy.Termination
import TrafficCapture.Proofs.Proxy.Timing
import TrafficCapture.Proofs.Proxy.Visit
import TrafficCapture.Proofs.Query.Isolation
import TrafficCapture.Proofs.Query.Scan
import TrafficCapture.Proofs.Store.History
import TrafficCapture.Proofs.Store.Lifecycle
import TrafficCapture.Proofs.Text.Base64
import TrafficCapture.Proofs.Text.Mending
import TrafficCapture.Proofs.Text.Numeral
import TrafficCapture.Proofs.Text.Search
import TrafficCapture.Proofs.Text.Utf8
import TrafficCapture.Proxy.Capture
import TrafficCapture.Proxy.Connection
import TrafficCapture.Proxy.Destination
import TrafficCapture.Proxy.Framing
import TrafficCapture.Proxy.Reply
import TrafficCapture.Proxy.Request
import TrafficCapture.Proxy.Service
import TrafficCapture.Proxy.Transfer
import TrafficCapture.Query.Port
import TrafficCapture.Query.Spec
import TrafficCapture.Scanner
import TrafficCapture.Service
import TrafficCapture.Store
import TrafficCapture.Store.Registry
import TrafficCapture.Text.Ascii
import TrafficCapture.Text.Base64
import TrafficCapture.Text.Numeral
import TrafficCapture.Text.Search
import TrafficCapture.Text.Utf8
import TrafficCapture.Timestamp
import TrafficCapture.Unicode.Age
import TrafficCapture.Unicode.Category
import TrafficCapture.Unicode.Charset
import TrafficCapture.Unicode.Derived
import TrafficCapture.Unicode.Folding
import TrafficCapture.Unicode.Property
import TrafficCapture.Unicode.Query
import TrafficCapture.Unicode.Script
import TrafficCapture.Unicode.ScriptExtensions
import TrafficCapture.Unicode.Segmentation
