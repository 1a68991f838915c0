import Quill.Text.Surrogate
import Quill.Text.Printable
import Quill.Text.Quoted
import Quill.Text.Space
import Quill.Text.Digits
import Quill.Text.Lower
import Quill.Text.Word
import Quill.Token
import Quill.Token.Scan
import Quill.Decimal.Binary
import Quill.Decimal.Shortest
import Quill.Decimal.Text
import Quill.Decimal.Read
import Quill.Data.Value
import Quill.Tree.Basic
import Quill.Cursor
import Quill.Tree.Parse
import Quill.Tree.Codec
import Quill.Tree.Format
import Quill.Tree.FormatStack
import Quill.Tree.Rules
import Quill.Data.Json
import Quill.Tree.Loaded
import Quill.Data.Yaml.Scalar
import Quill.Data.Yaml.Write
import Quill.Data.Yaml.Read
import Quill.Tree.Exchange
import Quill.Text.Similar
import Quill.Console.Cells
import Quill.Console.Fit
import Quill.Console.Emoji
import Quill.Console.Style
import Quill.Console.Literal
import Quill.Console.Markup
import Quill.Console.Wrap
import Quill.Console.Table
import Quill.Console.Listing
import Quill.Command.Request
import Quill.Command.Read
import Quill.Command.Store
import Quill.Command.Run
import Quill.Main
import Quill.Proofs.Scan.Lexeme
import Quill.Proofs.Scan.Layout
import Quill.Proofs.Tree.Write
import Quill.Proofs.Tree.Load
import Quill.Proofs.Parse.Spec
import Quill.Proofs.Parse.Budget
import Quill.Proofs.Scan.Words
import Quill.Proofs.Scan.Classes
import Quill.Proofs.Scan.Longest
import Quill.Proofs.Scan.Strings
import Quill.Proofs.Format.Spelling
import Quill.Proofs.Format.Layout
import Quill.Proofs.Parse.Parsable
import Quill.Proofs.Parse.Shows
import Quill.Proofs.Tree.Erase
import Quill.Proofs.Reparse.Basic
import Quill.Proofs.Reparse.Reads
import Quill.Proofs.Reparse.Expression
import Quill.Proofs.Reparse.Statement
import Quill.Proofs.Reparse.RoundTrip
import Quill.Proofs.Grammar.Derivation
import Quill.Proofs.Cursor.Reachable
import Quill.Proofs.Parse.WellFormed
import Quill.Proofs.Parse.Climbing
import Quill.Proofs.Parse.Halting
import Quill.Proofs.Parse.Resources
import Quill.Proofs.Parse.Dispatch
import Quill.Proofs.Parse.PastEnd
import Quill.Proofs.Parse.Placed
import Quill.Proofs.Parse.Positions
import Quill.Proofs.Parse.Census
import Quill.Proofs.Format.Grouping
import Quill.Proofs.Reparse.Ungrouped
import Quill.Proofs.Grammar.Sound
import Quill.Proofs.Grammar.Complete
import Quill.Proofs.Format.Stack
