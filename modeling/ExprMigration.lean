import ExprMigration.Catalog
import ExprMigration.CommandLine.Arguments
import ExprMigration.CommandLine.Run
import ExprMigration.Config.Basic
import ExprMigration.Config.Reader
import ExprMigration.Config.Search
import ExprMigration.Corpus
import ExprMigration.CustomEntries
import ExprMigration.Decimal.Layout
import ExprMigration.Decimal.Shortest
import ExprMigration.Family
import ExprMigration.FileTree.Access
import ExprMigration.FileTree.Basic
import ExprMigration.FileTree.Path
import ExprMigration.FileTree.Walk
import ExprMigration.Glob
import ExprMigration.Identifier
import ExprMigration.Json.Basic
import ExprMigration.Json.Number
import ExprMigration.Json.Printer
import ExprMigration.Json.Reader
import ExprMigration.Main
import ExprMigration.Migration
import ExprMigration.Proofs.Token.Extraction
import ExprMigration.Proofs.Token.Gathering
import ExprMigration.Proofs.Token.Language
import ExprMigration.Proofs.Token.Pieces
import ExprMigration.Registry
import ExprMigration.Report.Basic
import ExprMigration.Report.Style
import ExprMigration.Report.Table
import ExprMigration.Resolver
import ExprMigration.Text.Basic
import ExprMigration.Text.Blank
import ExprMigration.Text.Case
import ExprMigration.Text.Case.Classes
import ExprMigration.Text.Classes.Emoji
import ExprMigration.Text.Classes.Extend
import ExprMigration.Text.Classes.Ignorable
import ExprMigration.Text.Classes.Joining
import ExprMigration.Text.Classes.Unprintable
import ExprMigration.Text.Classes.Wide
import ExprMigration.Text.Digits
import ExprMigration.Text.Quoted
import ExprMigration.Text.Range
import ExprMigration.Text.Width
import ExprMigration.Token
import ExprMigration.Yaml.Cursor
import ExprMigration.Yaml.Document
import ExprMigration.Yaml.FlatMap
import ExprMigration.Yaml.Plain
import ExprMigration.Yaml.Scalar
import ExprMigration.Yaml.Token
import ExprMigration.Yaml.Tokenizer
import ExprMigration.Proofs.Substitution.Insertion
import ExprMigration.Proofs.Substitution.OnePass
import ExprMigration.Proofs.Substitution.Order
import ExprMigration.Proofs.Substitution.Completion
import ExprMigration.Proofs.Substitution.Survival
import ExprMigration.Proofs.FileTree.Continuation
import ExprMigration.Proofs.FileTree.Grounded
import ExprMigration.Proofs.Migration.Selected
import ExprMigration.Proofs.Migration.Course
import ExprMigration.Proofs.Migration.Applied
import ExprMigration.Proofs.Migration.Frame
import ExprMigration.Proofs.Migration.Idempotence
import ExprMigration.Proofs.CommandLine.Gate
import ExprMigration.Proofs.CommandLine.ReadOnly
import ExprMigration.Proofs.Migration.Counting
import ExprMigration.Proofs.Resolver.Layers
import ExprMigration.Proofs.CommandLine.DryRun
import ExprMigration.Proofs.FileTree.PathOrder
import ExprMigration.Proofs.Migration.Stale
import ExprMigration.Proofs.FileTree.Spelling
import ExprMigration.Proofs.Registry.LongestStem
import ExprMigration.Proofs.Text.Bytes
import ExprMigration.Proofs.FileTree.PathMap
import ExprMigration.Proofs.Migration.Scanned
import ExprMigration.Proofs.Migration.Accounted
import ExprMigration.Proofs.FileTree.Relative
import ExprMigration.Proofs.FileTree.Roots
import ExprMigration.Proofs.Migration.Discovered
import ExprMigration.Proofs.Identifier.Alphabet
import ExprMigration.Proofs.Text.LowerCase
import ExprMigration.Proofs.Catalog.Expression
import ExprMigration.Proofs.Identifier.Neighbours
import ExprMigration.Proofs.Resolver.Expressions
import ExprMigration.Proofs.Resolver.Secrets
import ExprMigration.Proofs.Text.Boundary
import ExprMigration.Proofs.Registry.Suffix
import ExprMigration.Proofs.Text.Trim
import ExprMigration.Proofs.Identifier.Spelling
import ExprMigration.Proofs.FileTree.Parents
import ExprMigration.Proofs.Config.Search
import ExprMigration.Proofs.CommandLine.Lookup
import ExprMigration.Proofs.FileTree.Creation
import ExprMigration.Proofs.Json.RoundTrip
import ExprMigration.Proofs.Config.Overlay
import ExprMigration.Proofs.Substitution.Spans
import ExprMigration.Proofs.Config.Extensions
import ExprMigration.Proofs.CommandLine.NewConfig
import ExprMigration.Proofs.Text.Width
import ExprMigration.Proofs.Report.Aligned
