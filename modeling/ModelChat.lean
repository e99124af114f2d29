import ModelChat.Client
import ModelChat.Client.Observer
import ModelChat.CommandLine.Fault
import ModelChat.CommandLine.Grammar
import ModelChat.CommandLine.Help
import ModelChat.CommandLine.Parser
import ModelChat.CommandLine.Similarity
import ModelChat.Completion
import ModelChat.Conversation
import ModelChat.Decimal.Natural
import ModelChat.Decimal.Shortest
import ModelChat.Description
import ModelChat.Http.Base64
import ModelChat.Http.Header
import ModelChat.Http.Host
import ModelChat.Http.HostName
import ModelChat.Http.HostName.Direction
import ModelChat.Http.HostName.Joining
import ModelChat.Http.HostName.Mapping
import ModelChat.Http.Network
import ModelChat.Http.Percent
import ModelChat.Http.Punycode
import ModelChat.Http.Rendering
import ModelChat.Http.Request
import ModelChat.Http.Url
import ModelChat.Json.Basic
import ModelChat.Json.Fault
import ModelChat.Json.Number
import ModelChat.Json.Printer
import ModelChat.Json.Reader
import ModelChat.Json.Record
import ModelChat.Json.Skip
import ModelChat.Json.Token
import ModelChat.Log
import ModelChat.Log.Filter
import ModelChat.Log.Pattern
import ModelChat.Main
import ModelChat.Message
import ModelChat.Message.Reader
import ModelChat.Program
import ModelChat.Proofs.Session.Calls
import ModelChat.Proofs.Session.History
import ModelChat.Proofs.Transcript.Retention
import ModelChat.Reply
import ModelChat.Request
import ModelChat.Sampling
import ModelChat.Sampling.Reader
import ModelChat.Session
import ModelChat.Settings
import ModelChat.Text.Alphanumeric
import ModelChat.Text.Canonical
import ModelChat.Text.Canonical.Tables
import ModelChat.Text.Grapheme
import ModelChat.Text.Grapheme.Tables
import ModelChat.Text.Hex
import ModelChat.Text.Lines
import ModelChat.Text.Mark
import ModelChat.Text.Printable
import ModelChat.Text.Quoted
import ModelChat.Text.Space
import ModelChat.Text.Split
import ModelChat.Text.Table
import ModelChat.Text.Terminal
import ModelChat.Text.Utf8
import ModelChat.Transcript
import ModelChat.Proofs.Session.SystemPrompt
import ModelChat.Proofs.Conversation.Script
import ModelChat.Proofs.Conversation.Refusal
import ModelChat.Proofs.Transcript.Edits
import ModelChat.Proofs.Completion.Classification
import ModelChat.Proofs.Client.Posting
import ModelChat.Proofs.Client.Refinement
import ModelChat.Proofs.Json.Grammar
import ModelChat.Proofs.Json.NumberPrinter
import ModelChat.Proofs.Json.Printer
import ModelChat.Proofs.Json.Record
import ModelChat.Proofs.Message.Reader
import ModelChat.Proofs.Request.RoundTrip
import ModelChat.Proofs.Client.Secrecy
import ModelChat.Proofs.Client.Endings
import ModelChat.Proofs.Client.Observer
import ModelChat.Proofs.Http.Exchange
import ModelChat.Proofs.Http.Redaction
import ModelChat.Proofs.Session.Roles
import ModelChat.Proofs.Text.Lines
import ModelChat.Proofs.Http.OneLine
import ModelChat.Proofs.Http.Grouping
import ModelChat.Proofs.Http.Framing
import ModelChat.Proofs.Json.Canonical
import ModelChat.Proofs.Json.Depth
import ModelChat.Proofs.Json.PrettyPrinter
import ModelChat.Proofs.Http.BodyText
import ModelChat.Proofs.CommandLine.Words
import ModelChat.Proofs.CommandLine.Switch
import ModelChat.Proofs.Client.Course
import ModelChat.Proofs.Program.Arguments
import ModelChat.Proofs.Program.Input
import ModelChat.Proofs.Program.Chat
import ModelChat.Proofs.Program.Description
import ModelChat.Proofs.Decimal.Natural
import ModelChat.Proofs.CommandLine.Limit
import ModelChat.Proofs.Json.Recognition.Token
import ModelChat.Proofs.Json.Recognition
import ModelChat.Proofs.Json.Reordering
import ModelChat.Proofs.Completion.RoundTrip
import ModelChat.Proofs.Json.Passing
import ModelChat.Proofs.Json.Meaning
import ModelChat.Proofs.Message.Meaning
import ModelChat.Proofs.Message.Layout
import ModelChat.Proofs.Message.Parts
import ModelChat.Proofs.Reply.EndMarker
import ModelChat.Proofs.Transcript.Eviction
import ModelChat.Proofs.CommandLine.Given
import ModelChat.Proofs.CommandLine.Line
import ModelChat.Proofs.CommandLine.Precedence
