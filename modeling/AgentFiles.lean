import AgentFiles.Binary64
import AgentFiles.Binary64.Decimal
import AgentFiles.Binary64.Layout
import AgentFiles.Binary64.Shortest
import AgentFiles.Check.File
import AgentFiles.Check.Manifest
import AgentFiles.Check.Markdown
import AgentFiles.Failure
import AgentFiles.FileName
import AgentFiles.Found
import AgentFiles.Header.Schema
import AgentFiles.Header.Text
import AgentFiles.Header.Values
import AgentFiles.Json.Codec
import AgentFiles.Json.Fault
import AgentFiles.Json.Lexeme
import AgentFiles.Json.Node
import AgentFiles.Json.Printer
import AgentFiles.Json.Source
import AgentFiles.Json.Untyped
import AgentFiles.Json.Value
import AgentFiles.Keyed
import AgentFiles.Kind
import AgentFiles.Limits
import AgentFiles.Load
import AgentFiles.Markdown.Document
import AgentFiles.Markdown.Fence
import AgentFiles.Metadata
import AgentFiles.Naming
import AgentFiles.Number
import AgentFiles.Proofs.Check.BodyErrors
import AgentFiles.Proofs.Check.CatalogGaps
import AgentFiles.Proofs.Check.Findings
import AgentFiles.Proofs.Check.Forms
import AgentFiles.Proofs.Check.HeaderAndBody
import AgentFiles.Proofs.Check.LengthWarnings
import AgentFiles.Proofs.Check.LineEndings
import AgentFiles.Proofs.Check.Strictness
import AgentFiles.Proofs.Check.Summary
import AgentFiles.Proofs.Check.TypedHeader
import AgentFiles.Proofs.Check.TypedManifest
import AgentFiles.Proofs.Check.Unset
import AgentFiles.Proofs.FileName.Category
import AgentFiles.Proofs.FileName.Completion
import AgentFiles.Proofs.FileName.Detection
import AgentFiles.Proofs.Header.Acceptance
import AgentFiles.Proofs.Header.Entries
import AgentFiles.Proofs.Header.Loading
import AgentFiles.Proofs.Header.Lookup
import AgentFiles.Proofs.Header.Nodes
import AgentFiles.Proofs.Header.Scalars
import AgentFiles.Proofs.Json.Agreement
import AgentFiles.Proofs.Json.ExtraMembers
import AgentFiles.Proofs.Json.Fields
import AgentFiles.Proofs.Json.Lossless
import AgentFiles.Proofs.Json.Printed
import AgentFiles.Proofs.Json.Records
import AgentFiles.Proofs.Json.Reloading
import AgentFiles.Proofs.Json.Schemas
import AgentFiles.Proofs.Json.Shows
import AgentFiles.Proofs.Json.Skipping
import AgentFiles.Proofs.Json.Tokens
import AgentFiles.Proofs.Json.Typed
import AgentFiles.Proofs.Keyed
import AgentFiles.Proofs.Limits
import AgentFiles.Proofs.Markdown.Body
import AgentFiles.Proofs.Markdown.FenceGrammar
import AgentFiles.Proofs.Markdown.Keys
import AgentFiles.Proofs.Naming
import AgentFiles.Proofs.Outcome
import AgentFiles.Proofs.Report
import AgentFiles.Proofs.Stored.Conversion
import AgentFiles.Proofs.Stored.Tally
import AgentFiles.Proofs.Text.Bytes
import AgentFiles.Proofs.Text.Commas
import AgentFiles.Proofs.Text.Decimal
import AgentFiles.Proofs.Text.Lowercase
import AgentFiles.Proofs.Text.Numeral
import AgentFiles.Proofs.Text.Trimming
import AgentFiles.Proofs.Tips.Dismissal
import AgentFiles.Proofs.Tips.Effects
import AgentFiles.Proofs.Tips.Failures
import AgentFiles.Proofs.Tips.Interval
import AgentFiles.Proofs.Tips.Navigation
import AgentFiles.Proofs.Tips.StoredTime
import AgentFiles.Proofs.ToolList
import AgentFiles.Proofs.Verdict
import AgentFiles.Proofs.Yaml.Members
import AgentFiles.Proofs.Yaml.Reading
import AgentFiles.Proofs.Yaml.Resolution
import AgentFiles.Proofs.Yaml.Sameness
import AgentFiles.Proofs.Yaml.Texts
import AgentFiles.Proofs.Yaml.Tree
import AgentFiles.Proofs.Yaml.Untagged
import AgentFiles.Report
import AgentFiles.Schema.Kind
import AgentFiles.Schema.Marketplace
import AgentFiles.Schema.Plugin
import AgentFiles.Schema.Settings
import AgentFiles.Stored
import AgentFiles.Template
import AgentFiles.Text.Blank
import AgentFiles.Text.Commas
import AgentFiles.Text.Digits
import AgentFiles.Text.Hidden
import AgentFiles.Text.Lowercase
import AgentFiles.Text.Numeral
import AgentFiles.Text.Quoted
import AgentFiles.Text.Search
import AgentFiles.Text.Units
import AgentFiles.Tips
import AgentFiles.ToolList
import AgentFiles.Verdict
import AgentFiles.Yaml.Cursor
import AgentFiles.Yaml.Document
import AgentFiles.Yaml.Event
import AgentFiles.Yaml.Fault
import AgentFiles.Yaml.Mark
import AgentFiles.Yaml.Problem
import AgentFiles.Yaml.Reading
import AgentFiles.Yaml.Scalar
import AgentFiles.Yaml.Tag
import AgentFiles.Yaml.Token
import AgentFiles.Yaml.Token.Property
import AgentFiles.Yaml.Token.Scalar
import AgentFiles.Yaml.Token.Space
import AgentFiles.Yaml.Token.Stream
import AgentFiles.Yaml.Value
