import PageAudit.Audit.Result
import PageAudit.Audit.Run
import PageAudit.Audit.Score
import PageAudit.Binary64.Basic
import PageAudit.Binary64.Rounding
import PageAudit.Category
import PageAudit.CommandLine
import PageAudit.Config
import PageAudit.Decimal.Fixed
import PageAudit.Decimal.Shortest
import PageAudit.Decimal.Whole
import PageAudit.Fetch.Client
import PageAudit.Fetch.Error
import PageAudit.Fetch.Network
import PageAudit.Fetch.Response
import PageAudit.Finding.Basic
import PageAudit.Finding.Knowledge
import PageAudit.Finding.Template
import PageAudit.Html.Document
import PageAudit.Html.ElementName
import PageAudit.Html.Entity
import PageAudit.Html.Entity.Table
import PageAudit.Html.Lexer
import PageAudit.Html.Node
import PageAudit.Html.Reference
import PageAudit.Html.Token
import PageAudit.Html.Token.Comment
import PageAudit.Html.Token.DoctypeReader
import PageAudit.Html.Token.TagReader
import PageAudit.Html.Tree.Arena
import PageAudit.Html.Tree.Body
import PageAudit.Html.Tree.Builder
import PageAudit.Html.Tree.Construction
import PageAudit.Html.Tree.ForeignNames
import PageAudit.Html.Tree.Formatting
import PageAudit.Html.Tree.Head
import PageAudit.Html.Tree.Open
import PageAudit.Html.Tree.Select
import PageAudit.Html.Tree.Table
import PageAudit.Instant.Basic
import PageAudit.Instant.Reader
import PageAudit.Instant.Text
import PageAudit.Json.Reader
import PageAudit.Json.Real
import PageAudit.Json.Value
import PageAudit.Json.Writer
import PageAudit.Log
import PageAudit.Main
import PageAudit.Page.Address
import PageAudit.Page.Basic
import PageAudit.Page.Header
import PageAudit.Program
import PageAudit.Proofs.Audit.Outcome
import PageAudit.Proofs.Audit.Settled
import PageAudit.Proofs.Decimal.Digits
import PageAudit.Proofs.Fetch.Trail
import PageAudit.Proofs.Finding.Base
import PageAudit.Proofs.Instant.RoundTrip
import PageAudit.Proofs.Json.Leaves
import PageAudit.Proofs.Json.RoundTrip
import PageAudit.Proofs.Page.Header
import PageAudit.Proofs.Report.Lossless
import PageAudit.Proofs.Report.Reading
import PageAudit.Proofs.Report.Restored
import PageAudit.Proofs.Rule.Bound
import PageAudit.Proofs.Rule.Provenance
import PageAudit.Proofs.Rule.Raised
import PageAudit.Proofs.Rule.Sight
import PageAudit.Proofs.Rule.Tariff
import PageAudit.Proofs.Session.Action
import PageAudit.Proofs.Session.Fresh
import PageAudit.Proofs.Session.Notice
import PageAudit.Proofs.Session.Reachable
import PageAudit.Proofs.Session.Screens
import PageAudit.Proofs.Session.UnderWay
import PageAudit.Proofs.Session.Views
import PageAudit.Proofs.Text.Blank
import PageAudit.Proofs.Text.Replace
import PageAudit.Proofs.Text.SingleLine
import PageAudit.Proofs.View.Drawable
import PageAudit.Report.FileName
import PageAudit.Report.Folder
import PageAudit.Report.Json
import PageAudit.Report.Text
import PageAudit.Rule.Accessibility
import PageAudit.Rule.Basic
import PageAudit.Rule.Catalogue
import PageAudit.Rule.Performance
import PageAudit.Rule.Security
import PageAudit.Rule.Seo
import PageAudit.Screen.Area
import PageAudit.Screen.Bar
import PageAudit.Screen.Canvas
import PageAudit.Screen.Glyph
import PageAudit.Screen.Panel
import PageAudit.Screen.Row
import PageAudit.Session.Action
import PageAudit.Session.Basic
import PageAudit.Session.Key
import PageAudit.Session.LogPanel
import PageAudit.Session.Loop
import PageAudit.Text.Blank
import PageAudit.Text.Case
import PageAudit.Text.Case.Table
import PageAudit.Text.Charset
import PageAudit.Text.Composition
import PageAudit.Text.Composition.Table
import PageAudit.Text.Grapheme
import PageAudit.Text.Grapheme.Table
import PageAudit.Text.Lines
import PageAudit.Text.Mark
import PageAudit.Text.Mark.Table
import PageAudit.Text.Search
import PageAudit.Text.Span
import PageAudit.Text.Width
import PageAudit.Text.Width.Table
import PageAudit.Text.Words
import PageAudit.Url.Address4
import PageAudit.Url.Address6
import PageAudit.Url.Basic
import PageAudit.Url.Domain
import PageAudit.Url.Domain.ScriptTable
import PageAudit.Url.Domain.Table
import PageAudit.Url.Host
import PageAudit.Url.Percent
import PageAudit.Url.Punycode
import PageAudit.Url.Reader
import PageAudit.View.Basic
import PageAudit.View.Draw
import PageAudit.View.Log
import PageAudit.View.Report
import PageAudit.View.Summary
import PageAudit.Proofs.Rule.Spelled
import PageAudit.Proofs.Audit.Composition
import PageAudit.Proofs.Rule.HeaderLine
import PageAudit.Proofs.Audit.PlainText
import PageAudit.Proofs.Rule.Images
import PageAudit.Proofs.Rule.Labels
import PageAudit.Proofs.Text.Words
import PageAudit.Proofs.Binary64.Amount
import PageAudit.Proofs.Rule.SearchEngine
import PageAudit.Proofs.Rule.Load
import PageAudit.Proofs.Session.LogPanel
import PageAudit.Proofs.Audit.Address
import PageAudit.Proofs.Report.FileName
import PageAudit.Proofs.Session.Saving
import PageAudit.Proofs.Page.Lookup
import PageAudit.Proofs.Config.Settings
import PageAudit.Proofs.Fetch.Agent
import PageAudit.Proofs.Session.Keys
import PageAudit.Proofs.CommandLine.Grammar
import PageAudit.Proofs.Html.Scope
import PageAudit.Proofs.Screen.Confined
import PageAudit.Proofs.View.LogArea
import PageAudit.Proofs.View.Columns
import PageAudit.Proofs.Text.Lines
import PageAudit.Proofs.Html.TokenList
import PageAudit.Proofs.Finding.Subject
