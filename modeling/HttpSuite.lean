import HttpSuite.Code.Check
import HttpSuite.Code.Line
import HttpSuite.Code.Literal
import HttpSuite.Code.Suite
import HttpSuite.CommandLine
import HttpSuite.CommandLine.Stop
import HttpSuite.Diagnostic
import HttpSuite.Domain
import HttpSuite.Domain.Direction
import HttpSuite.Domain.Disallowed
import HttpSuite.Domain.Joining
import HttpSuite.Domain.Mapped
import HttpSuite.Domain.Mapped.Form
import HttpSuite.Domain.Mapped.Letter
import HttpSuite.Domain.Mapped.Symbol
import HttpSuite.Domain.Mapped.Text
import HttpSuite.Domain.Mark
import HttpSuite.Domain.Punycode
import HttpSuite.Field
import HttpSuite.FileSystem
import HttpSuite.FileTree
import HttpSuite.Headers
import HttpSuite.Json
import HttpSuite.Main
import HttpSuite.Method
import HttpSuite.Parser.Basic
import HttpSuite.Parser.Error
import HttpSuite.Path
import HttpSuite.Plan
import HttpSuite.Proofs.Grammar
import HttpSuite.Proofs.Parser.Reading
import HttpSuite.Run
import HttpSuite.Settings
import HttpSuite.Settings.File
import HttpSuite.Substitution
import HttpSuite.Suite
import HttpSuite.Suite.Json
import HttpSuite.Suite.Parser
import HttpSuite.Suite.Validity
import HttpSuite.Table
import HttpSuite.Text.Alphabetic
import HttpSuite.Text.Blank
import HttpSuite.Text.Composition
import HttpSuite.Text.Composition.Tables
import HttpSuite.Text.Ideograph
import HttpSuite.Text.Percent
import HttpSuite.Text.Position
import HttpSuite.Text.Quoted
import HttpSuite.Text.Ranges
import HttpSuite.Text.Split
import HttpSuite.Token
import HttpSuite.Token.Front
import HttpSuite.Token.Lexer
import HttpSuite.Token.Source
import HttpSuite.Toml.Document
import HttpSuite.Toml.Quoted
import HttpSuite.Toml.Reader
import HttpSuite.Toml.Scalar
import HttpSuite.Toml.Tree
import HttpSuite.Toml.Value
import HttpSuite.Url
import HttpSuite.Url.Error
import HttpSuite.Url.Host
import HttpSuite.Url.Ipv4
import HttpSuite.Url.Ipv6
import HttpSuite.Variables
import HttpSuite.Warning
import HttpSuite.Proofs.Parser.Soundness
import HttpSuite.Proofs.Parser.Completeness
import HttpSuite.Proofs.Token.Lexing
import HttpSuite.Proofs.Parser.Exactness
import HttpSuite.Proofs.Code.Literal
import HttpSuite.Proofs.Code.Writing
import HttpSuite.Proofs.Code.Decoding
import HttpSuite.Proofs.Code.Lines
import HttpSuite.Proofs.Code.Arguments
import HttpSuite.Proofs.Code.HeaderMap
import HttpSuite.Proofs.Code.Remarks
import HttpSuite.Proofs.Code.Events
import HttpSuite.Proofs.Code.Account
import HttpSuite.Proofs.Code.Functions
import HttpSuite.Proofs.Suite.Validity
import HttpSuite.Proofs.Code.Sending
import HttpSuite.Proofs.FileSystem
import HttpSuite.Proofs.FileTree
import HttpSuite.Proofs.Run
import HttpSuite.Proofs.Run.Atomicity
import HttpSuite.Proofs.Token.Division
import HttpSuite.Proofs.Token.Spelling
import HttpSuite.Proofs.Suite.Problems
import HttpSuite.Proofs.Token.Written
import HttpSuite.Proofs.Table
import HttpSuite.Proofs.Suite.Spans
import HttpSuite.Proofs.Parser.Agreement
import HttpSuite.Proofs.Parser.Completion
import HttpSuite.Proofs.Parser.Errors
import HttpSuite.Proofs.Parser.Warnings
import HttpSuite.Proofs.Suite.WellFormed
import HttpSuite.Proofs.Suite.Printing
import HttpSuite.Proofs.Parser.Invariant
import HttpSuite.Proofs.Parser.Replay
import HttpSuite.Proofs.Token.Layout
import HttpSuite.Proofs.Suite.Layout
import HttpSuite.Proofs.Parser.Items
import HttpSuite.Proofs.Parser.Noting
import HttpSuite.Proofs.Suite.Precedence
import HttpSuite.Proofs.Suite.Warnings
import HttpSuite.Proofs.Code.SourceName
import HttpSuite.Proofs.Path.Extension
import HttpSuite.Proofs.Run.Source
import HttpSuite.Text.Continue
import HttpSuite.Proofs.Text.Composition
import HttpSuite.Proofs.Text.Continue
import HttpSuite.Proofs.Suite.Identifiers
import HttpSuite.Proofs.Substitution
import HttpSuite.Proofs.Suite.References
import HttpSuite.Proofs.Text.Position
import HttpSuite.Proofs.Suite.Positions
import HttpSuite.Proofs.Table.LastWrite
import HttpSuite.Proofs.Suite.Normalization
import HttpSuite.Proofs.Parser.Progress
import HttpSuite.Proofs.Parser.Fetching
import HttpSuite.Proofs.Substitution.Slices
import HttpSuite.Proofs.Suite.Safety
import HttpSuite.Proofs.Parser.Insertion
import HttpSuite.Proofs.Suite.Transparency
import HttpSuite.Proofs.Token.Lines
import HttpSuite.Proofs.Token.Draining
import HttpSuite.Proofs.Suite.Strays
import HttpSuite.Proofs.Suite.Resumption
