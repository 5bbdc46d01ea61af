import XmlNames.Binary64.Basic
import XmlNames.Binary64.Rounding
import XmlNames.Binary64.Text
import XmlNames.Construction
import XmlNames.Decimal.Basic
import XmlNames.Decimal.Layout
import XmlNames.Decimal.Shortest
import XmlNames.Decimal.Style
import XmlNames.Default.Key
import XmlNames.Default.Register
import XmlNames.Default.Store
import XmlNames.Distinct
import XmlNames.Event
import XmlNames.Json.NamespaceForm
import XmlNames.Json.Numeral
import XmlNames.Json.Quotation
import XmlNames.Json.Token
import XmlNames.Logged
import XmlNames.Namespace
import XmlNames.NativeClass
import XmlNames.Prefix
import XmlNames.Property.Basic
import XmlNames.Property.Cursor
import XmlNames.QName
import XmlNames.Script.Action
import XmlNames.Script.Operand
import XmlNames.Script.Query
import XmlNames.Script.Run
import XmlNames.Text.Quoted
import XmlNames.Text.Unprintable
import XmlNames.Value
import XmlNames.Proofs.Binary64.Digits
import XmlNames.Proofs.Binary64.Integer
import XmlNames.Proofs.Binary64.Interval
import XmlNames.Proofs.Binary64.Layout
import XmlNames.Proofs.Binary64.Nearest
import XmlNames.Proofs.Binary64.Order
import XmlNames.Proofs.Binary64.Text
import XmlNames.Proofs.Binary64.Value
import XmlNames.Proofs.Construction.Candidate
import XmlNames.Proofs.Construction.Checked
import XmlNames.Proofs.Construction.Coercion
import XmlNames.Proofs.Construction.Decoration
import XmlNames.Proofs.Construction.HostName
import XmlNames.Proofs.Construction.Report
import XmlNames.Proofs.Decimal.Layout
import XmlNames.Proofs.Decimal.Minimal
import XmlNames.Proofs.Decimal.Places
import XmlNames.Proofs.Decimal.Shape
import XmlNames.Proofs.Decimal.Shortest
import XmlNames.Proofs.Default.Cell
import XmlNames.Proofs.Default.History
import XmlNames.Proofs.Default.Isolation
import XmlNames.Proofs.Default.Log
import XmlNames.Proofs.Default.Scope
import XmlNames.Proofs.Default.Session
import XmlNames.Proofs.Distinct
import XmlNames.Proofs.Json.Acceptance
import XmlNames.Proofs.Json.Fault
import XmlNames.Proofs.Json.Grammar
import XmlNames.Proofs.Json.Lexeme
import XmlNames.Proofs.Json.Lexing
import XmlNames.Proofs.Json.Numerals
import XmlNames.Proofs.Json.Quotation
import XmlNames.Proofs.Json.Reading
import XmlNames.Proofs.Json.RoundTrip
import XmlNames.Proofs.Namespace.Occurrence
import XmlNames.Proofs.Namespace.Operands
import XmlNames.Proofs.Namespace.Reachable
import XmlNames.Proofs.Property.Family
import XmlNames.Proofs.Property.Round
import XmlNames.Proofs.Property.Walk
import XmlNames.Proofs.QName.Rendering
import XmlNames.Proofs.Script.Building
import XmlNames.Proofs.Script.Control
import XmlNames.Proofs.Script.Operands
import XmlNames.Proofs.Script.Place
import XmlNames.Proofs.Script.Threads
import XmlNames.Proofs.Script.Visit
import XmlNames.Proofs.Script.Failure
