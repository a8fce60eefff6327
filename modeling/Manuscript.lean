import Manuscript.Text.RangeTable
import Manuscript.Text.Blank
import Manuscript.Text.WordChar
import Manuscript.Text.Printable
import Manuscript.Text.Cased
import Manuscript.Text.Digit
import Manuscript.Text.Punctuation
import Manuscript.Text.CaseFold
import Manuscript.Text.Entity
import Manuscript.Markdown.Rule
import Manuscript.Markdown.Token
import Manuscript.Markdown.Html
import Manuscript.Text.Percent
import Manuscript.Text.Punycode
import Manuscript.Text.Url
import Manuscript.Markdown.LinkText
import Manuscript.Markdown.Delimiter
import Manuscript.Markdown.Inline
import Manuscript.Markdown.Block
import Manuscript.Markdown.Tree
import Manuscript.Data.Value
import Manuscript.Document.Node
import Manuscript.Error
import Manuscript.Text.Margin
import Manuscript.Document.Tag
import Manuscript.Document.Reader
import Manuscript.Text.Quoted
import Manuscript.Decimal.Shortest
import Manuscript.Data.Lax
import Manuscript.Compiler.Options
import Manuscript.Compiler.Basic
import Manuscript.Decimal.Format
import Manuscript.Data.Literal
import Manuscript.Data.Json
import Manuscript.Document.NodeData
import Manuscript.Text.Lowercase
import Manuscript.Compiler.SourceFile
import Manuscript.Program.Generate
import Manuscript.Host.Path
import Manuscript.Text.Utf8
import Manuscript.Host.Basic
import Manuscript.Yaml.Mark
import Manuscript.Yaml.Cursor
import Manuscript.Yaml.Token
import Manuscript.Yaml.Token.Scalar
import Manuscript.Yaml.Token.Lexer
import Manuscript.Yaml.Event
import Manuscript.Yaml.Tag
import Manuscript.Yaml.Node
import Manuscript.Decimal.Read
import Manuscript.Yaml.Load
import Manuscript.FrontMatter
import Manuscript.Include
import Manuscript.Compiler.Process
import Manuscript.Digest.Sha256
import Manuscript.Build.Cache
import Manuscript.Build.Options
import Manuscript.Text.Case
import Manuscript.Settings.Basic
import Manuscript.Settings.EnvFile
import Manuscript.Settings.Storage
import Manuscript.Settings.Config
import Manuscript.Build.Run
import Manuscript.Daemon.Request
import Manuscript.Daemon.Service
import Manuscript.Daemon.Http
import Manuscript.Daemon.Api
import Manuscript.Text.Similarity
import Manuscript.Command.Spec
import Manuscript.Command.Help
import Manuscript.Command.Parse
import Manuscript.Command.Tool
import Manuscript.Main
import Manuscript.Proofs.Include.Run
import Manuscript.Proofs.Include.Splice
import Manuscript.Proofs.Include.Outermost
import Manuscript.Proofs.Include.Expansion
import Manuscript.Proofs.Include.Schedule
import Manuscript.Proofs.Compiler.Transform
import Manuscript.Proofs.Include.Atomicity
import Manuscript.Proofs.Daemon.Dependencies
import Manuscript.Proofs.Host.Path
import Manuscript.Proofs.Document.Failures
import Manuscript.Proofs.Include.Loading
import Manuscript.Proofs.Include.Cycles
import Manuscript.Proofs.Document.Vocabulary
import Manuscript.Proofs.Compiler.Vocabulary
import Manuscript.Proofs.Build.Cache
import Manuscript.Proofs.Daemon.Cache
import Manuscript.Proofs.Program.Literal
import Manuscript.Proofs.Program.Reader
import Manuscript.Proofs.Program.ReadBack
import Manuscript.Proofs.FrontMatter
import Manuscript.Proofs.Document.Nesting
import Manuscript.Proofs.Except
import Manuscript.Proofs.Data.JsonString
import Manuscript.Proofs.Build.Fingerprint
import Manuscript.Proofs.Document.Depth
import Manuscript.Proofs.Document.Plain
import Manuscript.Proofs.Document.TagReadBack
import Manuscript.Proofs.Document.ClosingTag
import Manuscript.Proofs.Document.RunningText
import Manuscript.Proofs.Markdown.InertText
import Manuscript.Proofs.Markdown.TagLine
import Manuscript.Proofs.Include.Specifier
import Manuscript.Proofs.Text.Lowering
import Manuscript.Proofs.Settings.Layers
