import LeasePapers.Agreement.Basic
import LeasePapers.Agreement.Noun
import LeasePapers.Amount.Basic
import LeasePapers.Amount.Printer
import LeasePapers.Amount.Reader
import LeasePapers.Calendar.Date
import LeasePapers.Calendar.Deadline
import LeasePapers.Calendar.Iso
import LeasePapers.Calendar.Keyword
import LeasePapers.Calendar.Local
import LeasePapers.Calendar.Phrase
import LeasePapers.Command.Arguments
import LeasePapers.Command.Folder
import LeasePapers.Command.Invocation
import LeasePapers.Command.Option
import LeasePapers.Command.Program
import LeasePapers.Command.Report
import LeasePapers.Command.Run
import LeasePapers.Document
import LeasePapers.Failure
import LeasePapers.Field.Basic
import LeasePapers.Field.Dictionary
import LeasePapers.Field.Json
import LeasePapers.Field.Value
import LeasePapers.Json.Literal
import LeasePapers.Json.Printer
import LeasePapers.Json.Reader
import LeasePapers.Json.Token
import LeasePapers.Json.Value
import LeasePapers.Main
import LeasePapers.Name.Given
import LeasePapers.Name.List
import LeasePapers.Name.Token
import LeasePapers.Number.Digits
import LeasePapers.Number.Double
import LeasePapers.Number.Power
import LeasePapers.Number.Shortest
import LeasePapers.Party.Basic
import LeasePapers.Party.Role
import LeasePapers.Proofs.Field.Dictionary
import LeasePapers.Proofs.Resolution.Inputs
import LeasePapers.Proofs.Template.Argument
import LeasePapers.Proofs.Template.Building
import LeasePapers.Proofs.Template.Canonical
import LeasePapers.Proofs.Template.Lossless
import LeasePapers.Proofs.Template.RoundTrip
import LeasePapers.Proofs.Template.Scan
import LeasePapers.Proofs.Template.Spelling
import LeasePapers.Proofs.Template.Tag
import LeasePapers.Proofs.Text.Blank
import LeasePapers.Proofs.Text.Map
import LeasePapers.Redaction.Address
import LeasePapers.Redaction.Basic
import LeasePapers.Redaction.Document
import LeasePapers.Redaction.Email
import LeasePapers.Redaction.Name
import LeasePapers.Redaction.Placeholder
import LeasePapers.Redaction.Prose
import LeasePapers.Redaction.Rule
import LeasePapers.Resolution.Basic
import LeasePapers.Resolution.Contract
import LeasePapers.Resolution.Guarantor
import LeasePapers.Resolution.Owner
import LeasePapers.Resolution.Phrase
import LeasePapers.Resolution.Tenant
import LeasePapers.Resolution.Update
import LeasePapers.Settings.Basic
import LeasePapers.Settings.Yaml
import LeasePapers.Template.Basic
import LeasePapers.Template.Builder
import LeasePapers.Template.Issue
import LeasePapers.Template.Node
import LeasePapers.Template.Placeholder
import LeasePapers.Template.Render
import LeasePapers.Template.Segment
import LeasePapers.Template.Survey
import LeasePapers.Template.Tag
import LeasePapers.Text.Alphabetic
import LeasePapers.Text.Basic
import LeasePapers.Text.Blank
import LeasePapers.Text.Capital
import LeasePapers.Text.Cased
import LeasePapers.Text.Fold
import LeasePapers.Text.Letter
import LeasePapers.Text.Lower
import LeasePapers.Text.Map
import LeasePapers.Text.Numeric
import LeasePapers.Text.Order
import LeasePapers.Text.Ranges
import LeasePapers.Text.Upper
import LeasePapers.Text.WordChar
import LeasePapers.Yaml.Cursor
import LeasePapers.Yaml.Node
import LeasePapers.Yaml.Printer
import LeasePapers.Yaml.Reader
import LeasePapers.Yaml.Resolved
import LeasePapers.Yaml.Scalar
import LeasePapers.Proofs.Redaction.Lookup
import LeasePapers.Proofs.Document.Numbers
import LeasePapers.Proofs.Text.Words
import LeasePapers.Proofs.Name.Entry
import LeasePapers.Proofs.Name.Full
import LeasePapers.Proofs.Redaction.Name
import LeasePapers.Proofs.Redaction.Alike
import LeasePapers.Proofs.Party.Alike
import LeasePapers.Proofs.Resolution.Alike
import LeasePapers.Proofs.Document.Surnames
import LeasePapers.Proofs.Template.Contents
import LeasePapers.Proofs.Template.Validity
import LeasePapers.Proofs.Template.Append
import LeasePapers.Proofs.Resolution.Edit
import LeasePapers.Proofs.Text.Braces
import LeasePapers.Proofs.Redaction.Braces
import LeasePapers.Proofs.Template.Nesting
import LeasePapers.Proofs.Redaction.Known
import LeasePapers.Proofs.Redaction.Replaced
import LeasePapers.Proofs.Redaction.Presence
import LeasePapers.Proofs.Redaction.Passes
import LeasePapers.Proofs.Name.Ends
import LeasePapers.Proofs.Redaction.Forms
import LeasePapers.Proofs.Redaction.Prose
import LeasePapers.Proofs.Json.Arrays
import LeasePapers.Proofs.Resolution.Derived
import LeasePapers.Proofs.Document.Lists
import LeasePapers.Proofs.Name.Single
import LeasePapers.Proofs.Redaction.Entry
import LeasePapers.Proofs.Redaction.Agreement
import LeasePapers.Proofs.Document.Slots
import LeasePapers.Proofs.Json.Objects
import LeasePapers.Proofs.Field.Json
import LeasePapers.Proofs.Redaction.Shape
import LeasePapers.Field.Form
import LeasePapers.Proofs.Text.Bytes
import LeasePapers.Proofs.Field.Form
import LeasePapers.Proofs.Template.Places
import LeasePapers.Proofs.Template.Alike
import LeasePapers.Proofs.Template.Unclosed
import LeasePapers.Proofs.Template.Walk
import LeasePapers.Proofs.Template.Reads
import LeasePapers.Proofs.Template.Normal
import LeasePapers.Proofs.Template.Reported
import LeasePapers.Proofs.Party.Names
import LeasePapers.Proofs.Resolution.Phrases
import LeasePapers.Proofs.Name.Canonical
import LeasePapers.Proofs.Redaction.Joined
import LeasePapers.Proofs.Calendar.Date
import LeasePapers.Proofs.Number.Digits
import LeasePapers.Proofs.Calendar.Iso
import LeasePapers.Proofs.Calendar.DayNumber
import LeasePapers.Proofs.Calendar.NextDay
import LeasePapers.Proofs.Calendar.Deadline
import LeasePapers.Proofs.Amount.Value
import LeasePapers.Proofs.Amount.Grouped
import LeasePapers.Proofs.Amount.Reader
import LeasePapers.Proofs.Amount.Currency
import LeasePapers.Proofs.Amount.Notation
import LeasePapers.Proofs.Redaction.CityState
import LeasePapers.Proofs.Redaction.Address
import LeasePapers.Proofs.Json.Members
import LeasePapers.Proofs.Number.Double
import LeasePapers.Proofs.Number.Shortest
import LeasePapers.Proofs.Json.Literals
import LeasePapers.Proofs.Field.Integers
import LeasePapers.Proofs.Command.Inputs
import LeasePapers.Proofs.Command.Outcome
import LeasePapers.Proofs.Yaml.Scalar
import LeasePapers.Proofs.Yaml.Escapes
import LeasePapers.Proofs.Yaml.Written
import LeasePapers.Proofs.Yaml.Block
import LeasePapers.Proofs.Yaml.Members
import LeasePapers.Proofs.Settings.RoundTrip
