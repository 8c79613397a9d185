import NativeFinder.CommandLine.Arguments
import NativeFinder.CommandLine.Dialogue
import NativeFinder.CommandLine.Listing
import NativeFinder.CommandLine.Program
import NativeFinder.CommandLine.Report
import NativeFinder.CommandLine.Request
import NativeFinder.Config.File
import NativeFinder.Config.Settings
import NativeFinder.Config.Update
import NativeFinder.Declaration.Basic
import NativeFinder.Declaration.Block
import NativeFinder.Declaration.Entries
import NativeFinder.Detail.Page
import NativeFinder.Detail.Panel
import NativeFinder.Detail.PanelLayout
import NativeFinder.Detail.Rendering
import NativeFinder.Entry
import NativeFinder.File.Path
import NativeFinder.File.Tree
import NativeFinder.Json.Reader
import NativeFinder.Json.Writer
import NativeFinder.Layout.Cells
import NativeFinder.Layout.Coloured
import NativeFinder.Layout.Wrap
import NativeFinder.Limit
import NativeFinder.Listing.Export
import NativeFinder.Listing.Row
import NativeFinder.Listing.Table
import NativeFinder.Listing.TableLayout
import NativeFinder.Log
import NativeFinder.Main
import NativeFinder.Markup.Style
import NativeFinder.Markup.Styled
import NativeFinder.Markup.Tag
import NativeFinder.Number.Binary64
import NativeFinder.Number.Decimal
import NativeFinder.Number.Numeral
import NativeFinder.Proofs.Declaration.Closing
import NativeFinder.Proofs.Declaration.Continuation
import NativeFinder.Proofs.Declaration.Fields
import NativeFinder.Proofs.Declaration.Grammar
import NativeFinder.Proofs.Declaration.Printing
import NativeFinder.Proofs.Declaration.Reading
import NativeFinder.Proofs.Session.History
import NativeFinder.Proofs.Text.Cuts
import NativeFinder.ReadError
import NativeFinder.Search.Index
import NativeFinder.Search.Similarity
import NativeFinder.Session.Basic
import NativeFinder.Session.Launcher
import NativeFinder.Session.Surface
import NativeFinder.Source.Address
import NativeFinder.Source.Failure
import NativeFinder.Source.Loader
import NativeFinder.Source.Local
import NativeFinder.Source.Web
import NativeFinder.Source.WebLoad
import NativeFinder.Terminal.Prompt
import NativeFinder.Terminal.Surface
import NativeFinder.Text.Basic
import NativeFinder.Text.Character
import NativeFinder.Text.Quoted
import NativeFinder.Text.Utf8
import NativeFinder.Value
import NativeFinder.Yaml.Cursor
import NativeFinder.Yaml.Node
import NativeFinder.Yaml.Quoted
import NativeFinder.Yaml.Reader
import NativeFinder.Yaml.Scalar
import NativeFinder.Yaml.ScalarWriter
import NativeFinder.Yaml.Token
import NativeFinder.Yaml.Writer
import NativeFinder.Proofs.Session.Protocol
import NativeFinder.Proofs.Session.Cancellation
import NativeFinder.Proofs.Session.Succession
import NativeFinder.Proofs.Declaration.Agreement
import NativeFinder.Proofs.Search.Building
import NativeFinder.Proofs.Search.Ranking
import NativeFinder.Proofs.Session.Settling
import NativeFinder.Proofs.Session.Change
import NativeFinder.Proofs.Session.Coherence
import NativeFinder.Proofs.Session.Answering
import NativeFinder.Proofs.Detail.Highlighting
import NativeFinder.Proofs.Detail.Page
import NativeFinder.Proofs.Markup.Tags
import NativeFinder.Proofs.Markup.Escaping
import NativeFinder.Proofs.Detail.Clear
import NativeFinder.Proofs.Detail.Panel
import NativeFinder.Proofs.Number.Digits
import NativeFinder.Proofs.Terminal.Numbering
import NativeFinder.Proofs.Terminal.Selecting
import NativeFinder.Proofs.Terminal.Prompting
import NativeFinder.Proofs.Terminal.Rounds
import NativeFinder.Proofs.Terminal.Listing
import NativeFinder.Proofs.Source.Gathering
import NativeFinder.Proofs.Config.Layering
import NativeFinder.Proofs.CommandLine.Listing
import NativeFinder.Proofs.Text.LineBreaks
import NativeFinder.Proofs.Declaration.LineBreaks
import NativeFinder.Proofs.Source.Decoding
import NativeFinder.Proofs.Number.Rounding
import NativeFinder.Proofs.Search.Similarity
import NativeFinder.Proofs.Search.Loosening
import NativeFinder.Proofs.Search.Literal
import NativeFinder.Proofs.Session.Selection
import NativeFinder.Proofs.Text.Lines
import NativeFinder.Proofs.Declaration.Summary
import NativeFinder.Markup.Emoji
import NativeFinder.Proofs.Detail.Tokens
import NativeFinder.Proofs.Detail.Renderings
import NativeFinder.Proofs.Markup.Tokens
import NativeFinder.Proofs.Markup.Shown
import NativeFinder.Proofs.Detail.Ordinary
import NativeFinder.Proofs.Terminal.Notices
import NativeFinder.Proofs.Declaration.Signature
import NativeFinder.Proofs.Config.Members
import NativeFinder.Proofs.Config.Precedence
import NativeFinder.Proofs.Json.Strings
import NativeFinder.Proofs.Number.ReadBack
import NativeFinder.Proofs.Number.Shortest
import NativeFinder.Proofs.Json.Numbers
import NativeFinder.Proofs.Json.Values
import NativeFinder.Proofs.Listing.Lossless
