import Docpress.Command.Arguments
import Docpress.Command.Run
import Docpress.Command.Suggestion
import Docpress.Config.Issue
import Docpress.Config.Load
import Docpress.Config.Options
import Docpress.Config.Project
import Docpress.Console.Colour
import Docpress.Console.Emoji
import Docpress.Console.Emoji.Name
import Docpress.Console.Literal
import Docpress.Console.Markup
import Docpress.Console.Style
import Docpress.Console.Table
import Docpress.Data.Binary64
import Docpress.Data.Value
import Docpress.Failure
import Docpress.FileTree
import Docpress.Highlight.Backend
import Docpress.Highlight.Completion
import Docpress.Highlight.Loading
import Docpress.Html.Entity
import Docpress.Html.Escape
import Docpress.Html.Tag
import Docpress.InlineTag
import Docpress.Main
import Docpress.Markdown.BareLink
import Docpress.Markdown.Block
import Docpress.Markdown.BlockStart
import Docpress.Markdown.Definition
import Docpress.Markdown.Delimiter
import Docpress.Markdown.Document
import Docpress.Markdown.Event
import Docpress.Markdown.Html
import Docpress.Markdown.Inline
import Docpress.Markdown.Line
import Docpress.Markdown.Link
import Docpress.Markdown.Place
import Docpress.Markdown.Span
import Docpress.Markdown.Unescape
import Docpress.Pages
import Docpress.Path
import Docpress.Proofs.Command.Agreement
import Docpress.Proofs.Command.Message
import Docpress.Proofs.Command.Output
import Docpress.Proofs.Command.Refusal
import Docpress.Proofs.Command.Task
import Docpress.Proofs.Config.Json
import Docpress.Proofs.Config.Load
import Docpress.Proofs.Config.Location
import Docpress.Proofs.Config.Normal
import Docpress.Proofs.Config.Refusal
import Docpress.Proofs.Console.Markup
import Docpress.Proofs.FileTree.Growth
import Docpress.Proofs.FileTree.Layout
import Docpress.Proofs.FileTree.Placed
import Docpress.Proofs.FileTree.Write
import Docpress.Proofs.Highlight.Completion
import Docpress.Proofs.Highlight.Deferred
import Docpress.Proofs.Highlight.Lifetime
import Docpress.Proofs.Highlight.Loading
import Docpress.Proofs.Html.Anchor
import Docpress.Proofs.Html.Escape
import Docpress.Proofs.Html.LineBreak
import Docpress.Proofs.Html.Markup
import Docpress.Proofs.Html.Region
import Docpress.Proofs.InlineTag.Alike
import Docpress.Proofs.InlineTag.Decode
import Docpress.Proofs.InlineTag.Guard
import Docpress.Proofs.InlineTag.Naturality
import Docpress.Proofs.InlineTag.Quote
import Docpress.Proofs.InlineTag.Spoil
import Docpress.Proofs.InlineTag.Tag
import Docpress.Proofs.InlineTag.Underscore
import Docpress.Proofs.Json.Events
import Docpress.Proofs.Json.Grammar
import Docpress.Proofs.Json.Nodes
import Docpress.Proofs.Json.Number
import Docpress.Proofs.Json.Quoted
import Docpress.Proofs.Json.Tokens
import Docpress.Proofs.Markdown.Alphabet
import Docpress.Proofs.Markdown.AngleLink
import Docpress.Proofs.Markdown.BareLink
import Docpress.Proofs.Markdown.Blank
import Docpress.Proofs.Markdown.Block
import Docpress.Proofs.Markdown.Composed
import Docpress.Proofs.Markdown.Copy
import Docpress.Proofs.Markdown.Delimiter
import Docpress.Proofs.Markdown.Destination
import Docpress.Proofs.Markdown.Document
import Docpress.Proofs.Markdown.Emphasis
import Docpress.Proofs.Markdown.Ending
import Docpress.Proofs.Markdown.Fence
import Docpress.Proofs.Markdown.Guarded
import Docpress.Proofs.Markdown.Heading
import Docpress.Proofs.Markdown.HiddenUrl
import Docpress.Proofs.Markdown.Label
import Docpress.Proofs.Markdown.Line
import Docpress.Proofs.Markdown.Mark
import Docpress.Proofs.Markdown.Pairing
import Docpress.Proofs.Markdown.Paragraph
import Docpress.Proofs.Markdown.Passes
import Docpress.Proofs.Markdown.Piece
import Docpress.Proofs.Markdown.Quiet
import Docpress.Proofs.Markdown.Reading
import Docpress.Proofs.Markdown.Running
import Docpress.Proofs.Markdown.SlashAddress
import Docpress.Proofs.Markdown.Task
import Docpress.Proofs.Markdown.Transcript
import Docpress.Proofs.Markdown.Underscore
import Docpress.Proofs.Markdown.Unmarked
import Docpress.Proofs.Markdown.Written
import Docpress.Proofs.Pages.Collect
import Docpress.Proofs.Pages.Collision
import Docpress.Proofs.Pages.Containment
import Docpress.Proofs.Pages.Order
import Docpress.Proofs.Pages.Output
import Docpress.Proofs.Pages.Run
import Docpress.Proofs.Pages.Sources
import Docpress.Proofs.Pages.Unread
import Docpress.Proofs.Path.Written
import Docpress.Proofs.Renderer.Autolink
import Docpress.Proofs.Renderer.BareUrl
import Docpress.Proofs.Renderer.Blank
import Docpress.Proofs.Renderer.CodeBlock
import Docpress.Proofs.Renderer.Commute
import Docpress.Proofs.Renderer.Fence
import Docpress.Proofs.Renderer.Hardwrap
import Docpress.Proofs.Renderer.Heading
import Docpress.Proofs.Renderer.Highlighted
import Docpress.Proofs.Renderer.History
import Docpress.Proofs.Renderer.Line
import Docpress.Proofs.Renderer.Literal
import Docpress.Proofs.Renderer.Marker
import Docpress.Proofs.Renderer.Plain
import Docpress.Proofs.Renderer.Program
import Docpress.Proofs.Renderer.Protect
import Docpress.Proofs.Renderer.Restore
import Docpress.Proofs.Renderer.Tags
import Docpress.Proofs.Renderer.Transparent
import Docpress.Proofs.Renderer.Untouched
import Docpress.Proofs.Slug.Normal
import Docpress.Proofs.Slug.Numbered
import Docpress.Proofs.Text.Alphanum
import Docpress.Proofs.Text.Growth
import Docpress.Proofs.Text.Lower
import Docpress.Proofs.Text.Part
import Docpress.Proofs.Text.Rules
import Docpress.Proofs.Text.Spare
import Docpress.Proofs.Text.Substitute
import Docpress.Proofs.Text.Utf8
import Docpress.Proofs.Text.Within
import Docpress.Proofs.Text.Words
import Docpress.Proofs.Url.Host
import Docpress.Proofs.Url.Hostless
import Docpress.Proofs.Url.Masked
import Docpress.Proofs.Url.Slashes
import Docpress.Proofs.Url.Target
import Docpress.Proofs.Yaml.Compose
import Docpress.Proofs.Yaml.Cursor
import Docpress.Proofs.Yaml.Events
import Docpress.Proofs.Yaml.Flow
import Docpress.Proofs.Yaml.Lookahead
import Docpress.Proofs.Yaml.Plain
import Docpress.Proofs.Yaml.Table
import Docpress.Registry
import Docpress.Renderer
import Docpress.Slug
import Docpress.Text.Basic
import Docpress.Text.Blank
import Docpress.Text.Case
import Docpress.Text.Digit
import Docpress.Text.Printable
import Docpress.Text.Punctuation
import Docpress.Text.Quoted
import Docpress.Text.Utf8
import Docpress.Text.Word
import Docpress.TextFile
import Docpress.Url.Normal
import Docpress.Url.Parts
import Docpress.Url.Percent
import Docpress.Url.Punycode
import Docpress.Url.Scheme
import Docpress.Yaml.BlockScalar
import Docpress.Yaml.Cursor
import Docpress.Yaml.Event
import Docpress.Yaml.Fault
import Docpress.Yaml.Load
import Docpress.Yaml.Merge
import Docpress.Yaml.Node
import Docpress.Yaml.Plain
import Docpress.Yaml.Property
import Docpress.Yaml.Quoted
import Docpress.Yaml.Resolution
import Docpress.Yaml.Scalar
import Docpress.Yaml.Scanner
import Docpress.Yaml.Token
