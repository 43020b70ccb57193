import LexicalFront.CommandLine
import LexicalFront.CompilationUnit
import LexicalFront.Config
import LexicalFront.Cursor
import LexicalFront.Enumeration
import LexicalFront.Error
import LexicalFront.Files.Basic
import LexicalFront.Files.Disk
import LexicalFront.Files.Memory
import LexicalFront.Files.Scripted
import LexicalFront.Json.Basic
import LexicalFront.Json.Parser
import LexicalFront.Json.Printer
import LexicalFront.Lexeme.Basic
import LexicalFront.Lexeme.Grammar
import LexicalFront.Lexeme.Tag
import LexicalFront.Main
import LexicalFront.Manifest
import LexicalFront.Path
import LexicalFront.Proofs.CompilationUnit
import LexicalFront.Proofs.Lexeme.Delimited
import LexicalFront.Proofs.Lexeme.First
import LexicalFront.Proofs.Lexeme.Number
import LexicalFront.Proofs.Lexeme.Run
import LexicalFront.Proofs.Session.Handle
import LexicalFront.Proofs.Session.Transition
import LexicalFront.Proofs.Token.LineBreak
import LexicalFront.Proofs.Token.MaximalMunch
import LexicalFront.Proofs.Token.Places
import LexicalFront.Proofs.Token.Tiling
import LexicalFront.Proofs.Workspace.Effect
import LexicalFront.Proofs.Workspace.Lookup
import LexicalFront.Proofs.Workspace.WellFormed
import LexicalFront.Render
import LexicalFront.Search
import LexicalFront.Session.Basic
import LexicalFront.Session.Step
import LexicalFront.Text.Alphabetic
import LexicalFront.Text.CharClass
import LexicalFront.Text.CodeSet
import LexicalFront.Text.DefaultIgnorable
import LexicalFront.Text.GraphemeExtend
import LexicalFront.Text.Numeric
import LexicalFront.Text.OsText
import LexicalFront.Text.Quoted
import LexicalFront.Text.Unprintable
import LexicalFront.Text.Utf8
import LexicalFront.Token.Basic
import LexicalFront.Token.Cooking
import LexicalFront.Token.Keyword
import LexicalFront.Token.Kind
import LexicalFront.Token.Operator
import LexicalFront.Token.Radix
import LexicalFront.Token.Span
import LexicalFront.TokenStream
import LexicalFront.Tokenizer
import LexicalFront.Workspace.Action
import LexicalFront.Workspace.Basic
import LexicalFront.Proofs.Session.Generation
import LexicalFront.Proofs.Session.Membership
import LexicalFront.Proofs.Path.Components
import LexicalFront.Proofs.Path.Order
import LexicalFront.Proofs.Files.Memory
import LexicalFront.Proofs.Enumeration
import LexicalFront.Proofs.Workspace.Opening
import LexicalFront.Proofs.Workspace.Loading
import LexicalFront.Proofs.Path.Ancestors
import LexicalFront.Proofs.Files.Tree
import LexicalFront.Proofs.Workspace.Locations
import LexicalFront.Proofs.Restoring
import LexicalFront.Proofs.Json.RoundTrip
import LexicalFront.Proofs.Manifest
import LexicalFront.Proofs.ListingOrder
import LexicalFront.Proofs.Workspace.OpeningOutside
import LexicalFront.Scanner
import LexicalFront.Proofs.Text.Ascii
import LexicalFront.Proofs.Cursor
import LexicalFront.Proofs.Scanner
import LexicalFront.Proofs.AnyCursor
import LexicalFront.Proofs.Lexeme.Chars
import LexicalFront.Proofs.Token.Reformatting
import LexicalFront.Proofs.Token.Neighbours
import LexicalFront.Proofs.Token.LineEnds
import LexicalFront.Proofs.Token.WhitespaceRuns
import LexicalFront.Proofs.Token.OffsetLookup
import LexicalFront.Proofs.Tokenizer
import LexicalFront.Proofs.Session.Validity
import LexicalFront.Proofs.Workspace.LoadingAll
import LexicalFront.Proofs.Files.Listing
import LexicalFront.Proofs.Files.Updates
import LexicalFront.Proofs.Token.FixedSpellings
import LexicalFront.Proofs.Text.Quoted
import LexicalFront.Proofs.Render
import LexicalFront.Proofs.Skips
import LexicalFront.Proofs.Workspace.Forgetting
import LexicalFront.Proofs.Session.Forgetting
