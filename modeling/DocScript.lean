import DocScript.Base64
import DocScript.Calendar.Date
import DocScript.Calendar.Moment
import DocScript.Calendar.Reader
import DocScript.Command.Arguments
import DocScript.Command.Files
import DocScript.Command.Run
import DocScript.Compile.Context
import DocScript.Compile.Element
import DocScript.Compile.Graph
import DocScript.Compile.Relationship
import DocScript.Compile.Script
import DocScript.Compile.Step
import DocScript.Console.Action
import DocScript.Console.Color
import DocScript.Console.Columns
import DocScript.Console.Emoji
import DocScript.Console.EmojiTable
import DocScript.Console.Line
import DocScript.Console.Markup
import DocScript.Console.Style
import DocScript.Console.Styled
import DocScript.Console.Table
import DocScript.Console.Wrap
import DocScript.Document.Codec
import DocScript.Document.Element
import DocScript.Document.Graph
import DocScript.Document.Load
import DocScript.Document.Model
import DocScript.Failure
import DocScript.Json.Basic
import DocScript.Json.Check
import DocScript.Json.Display
import DocScript.Json.Printer
import DocScript.Json.Reader
import DocScript.Json.Token
import DocScript.Main
import DocScript.Naming.Namespaces
import DocScript.Naming.Pool
import DocScript.Numeral.Binary64
import DocScript.Numeral.Decimal
import DocScript.Numeral.Digits
import DocScript.Numeral.Shortest
import DocScript.OrderedMap
import DocScript.Proofs.Base64
import DocScript.Proofs.Base64.Bits
import DocScript.Proofs.Calendar.Days
import DocScript.Proofs.Calendar.Ticks
import DocScript.Proofs.Calendar.Wall
import DocScript.Proofs.Document.Codec
import DocScript.Proofs.Element.Apart
import DocScript.Proofs.Element.Contribution
import DocScript.Proofs.Element.Creations
import DocScript.Proofs.Element.Demands
import DocScript.Proofs.Element.Fault
import DocScript.Proofs.Element.Mentions
import DocScript.Proofs.Element.Modes
import DocScript.Proofs.Element.Peak
import DocScript.Proofs.Element.Plan
import DocScript.Proofs.Element.Registers
import DocScript.Proofs.Element.Replay
import DocScript.Proofs.Element.Run
import DocScript.Proofs.Element.Scope
import DocScript.Proofs.Element.Skipped
import DocScript.Proofs.Element.Typing
import DocScript.Proofs.Element.Unsupported
import DocScript.Proofs.Element.Variables
import DocScript.Proofs.Graph.Calls
import DocScript.Proofs.Graph.Entry
import DocScript.Proofs.Graph.Explore
import DocScript.Proofs.Graph.Fill
import DocScript.Proofs.Graph.Links
import DocScript.Proofs.Graph.Payload
import DocScript.Proofs.Graph.Scope
import DocScript.Proofs.Graph.Traversal
import DocScript.Proofs.Graph.Visit
import DocScript.Proofs.Graph.Walk
import DocScript.Proofs.Json.Bounds
import DocScript.Proofs.Json.Check
import DocScript.Proofs.Json.Distinct
import DocScript.Proofs.Json.Every
import DocScript.Proofs.Json.Layout
import DocScript.Proofs.Json.Numeral
import DocScript.Proofs.Json.Reading
import DocScript.Proofs.Json.Saves
import DocScript.Proofs.Json.Tokens
import DocScript.Proofs.Lockstep
import DocScript.Proofs.Log
import DocScript.Proofs.Naming.Announced
import DocScript.Proofs.Naming.Clash
import DocScript.Proofs.Naming.Full
import DocScript.Proofs.Naming.Initial
import DocScript.Proofs.Naming.Namespaces
import DocScript.Proofs.Naming.Registration
import DocScript.Proofs.Naming.Spelling
import DocScript.Proofs.Naming.Stock
import DocScript.Proofs.Naming.Stocks
import DocScript.Proofs.Naming.Tally
import DocScript.Proofs.Naming.Trace
import DocScript.Proofs.Numeral.Integer
import DocScript.Proofs.Numeral.Rounding
import DocScript.Proofs.OrderedMap
import DocScript.Proofs.Schema.Build
import DocScript.Proofs.Schema.Codec
import DocScript.Proofs.Schema.Order
import DocScript.Proofs.Schema.Roles
import DocScript.Proofs.Script.Agreement
import DocScript.Proofs.Script.Alike
import DocScript.Proofs.Script.Cancellation
import DocScript.Proofs.Script.Codec
import DocScript.Proofs.Script.Extends
import DocScript.Proofs.Script.Generics
import DocScript.Proofs.Script.Imports
import DocScript.Proofs.Script.Legible
import DocScript.Proofs.Script.Links
import DocScript.Proofs.Script.Locals
import DocScript.Proofs.Script.Modes
import DocScript.Proofs.Script.Order
import DocScript.Proofs.Script.Prompt
import DocScript.Proofs.Script.Relations
import DocScript.Proofs.Script.Requests
import DocScript.Proofs.Script.Rerun
import DocScript.Proofs.Script.Routines
import DocScript.Proofs.Script.Scope
import DocScript.Proofs.Script.Target
import DocScript.Proofs.Script.TypeNames
import DocScript.Proofs.Script.Writes
import DocScript.Proofs.Step
import DocScript.Proofs.Store.Loss
import DocScript.Proofs.Store.Objects
import DocScript.Proofs.Store.Rebuild
import DocScript.Proofs.Store.Reference
import DocScript.Proofs.Store.Replay
import DocScript.Proofs.Text.Letter
import DocScript.Proofs.Value.Integers
import DocScript.Schema.Codec
import DocScript.Schema.Registry
import DocScript.Schema.Spec
import DocScript.Schema.TypeId
import DocScript.Script.Basic
import DocScript.Script.Codec
import DocScript.Script.Summary
import DocScript.Settings
import DocScript.Settings.Load
import DocScript.Text.Blank
import DocScript.Text.CaseMap
import DocScript.Text.CaseTable
import DocScript.Text.Cased
import DocScript.Text.CodeRun
import DocScript.Text.Digit
import DocScript.Text.Identifier
import DocScript.Text.Letter
import DocScript.Text.Printable
import DocScript.Text.Quoted
import DocScript.Text.Width
import DocScript.Text.WidthTable
import DocScript.Toml.Draft
import DocScript.Toml.Number
import DocScript.Toml.Reader
import DocScript.Toml.Scan
import DocScript.Toml.Text
import DocScript.Toml.Timestamp
import DocScript.Toml.Value
import DocScript.Uri
import DocScript.Value.Coerce
