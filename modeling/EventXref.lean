import EventXref.Cancellation
import EventXref.Change
import EventXref.Config.Basic
import EventXref.Config.Read
import EventXref.Document
import EventXref.Document.Edit
import EventXref.Event.Cache
import EventXref.Event.Extraction
import EventXref.Event.Index
import EventXref.Event.Lens
import EventXref.Event.Occurrence
import EventXref.Event.Pattern
import EventXref.FanOut
import EventXref.FileTree
import EventXref.Glob
import EventXref.Glob.Part
import EventXref.Grammar.Basic
import EventXref.Grammar.Context
import EventXref.Grammar.Marker
import EventXref.Grammar.Outline
import EventXref.Grammar.Provider
import EventXref.Grammar.Registry
import EventXref.Grammar.Scopes
import EventXref.Grammar.Shipped
import EventXref.Grammar.State
import EventXref.Machine
import EventXref.Path
import EventXref.Position
import EventXref.Progress
import EventXref.Regex.Basic
import EventXref.Regex.Bracket
import EventXref.Regex.Escape
import EventXref.Regex.Parse
import EventXref.Regex.Program
import EventXref.Regex.Search
import EventXref.Regex.Size
import EventXref.Scan
import EventXref.Server
import EventXref.Text.Age
import EventXref.Text.Blank
import EventXref.Text.Break
import EventXref.Text.ByteSequence
import EventXref.Text.Bytes
import EventXref.Text.CaseVariant
import EventXref.Text.Category
import EventXref.Text.CharRange
import EventXref.Text.CharSet
import EventXref.Text.Hex
import EventXref.Text.Hidden
import EventXref.Text.Letter
import EventXref.Text.Lines
import EventXref.Text.Property
import EventXref.Text.Quoted
import EventXref.Text.Script
import EventXref.Text.Table
import EventXref.Text.Trait
import EventXref.Text.Utf8
import EventXref.Text.Word
import EventXref.Tokenizer
import EventXref.Tokenizer.LineStates
import EventXref.Toml.Parse
import EventXref.Toml.Scalar
import EventXref.Toml.Table
import EventXref.Toml.Value
import EventXref.Uri
import EventXref.Proofs.Agreement
import EventXref.Proofs.AllMatches
import EventXref.Proofs.Batch
import EventXref.Proofs.Bounds
import EventXref.Proofs.CacheHistory
import EventXref.Proofs.CallPatterns
import EventXref.Proofs.CallTexts
import EventXref.Proofs.Calls
import EventXref.Proofs.CharSets
import EventXref.Proofs.ClosedFiles
import EventXref.Proofs.ContextScan
import EventXref.Proofs.Convergence
import EventXref.Proofs.CoveredCalls
import EventXref.Proofs.Exactness
import EventXref.Proofs.FanOut
import EventXref.Proofs.FileTree
import EventXref.Proofs.FileUri
import EventXref.Proofs.FirstMatch
import EventXref.Proofs.Forgetting
import EventXref.Proofs.Incremental
import EventXref.Proofs.Independence
import EventXref.Proofs.Index
import EventXref.Proofs.Interruption
import EventXref.Proofs.LateReaders
import EventXref.Proofs.LateResults
import EventXref.Proofs.Lexing
import EventXref.Proofs.LineArithmetic
import EventXref.Proofs.LineBreaks
import EventXref.Proofs.LineStates
import EventXref.Proofs.Listing
import EventXref.Proofs.LoadOrder
import EventXref.Proofs.LuaGrammar
import EventXref.Proofs.LuaLexemes
import EventXref.Proofs.LuaRules
import EventXref.Proofs.LuaTokens
import EventXref.Proofs.Machine
import EventXref.Proofs.Matches
import EventXref.Proofs.NameOrder
import EventXref.Proofs.PatternMeaning
import EventXref.Proofs.PatternTables
import EventXref.Proofs.Places
import EventXref.Proofs.PositionOrder
import EventXref.Proofs.ReadLines
import EventXref.Proofs.Rereading
import EventXref.Proofs.Rescan
import EventXref.Proofs.ResourceFiles
import EventXref.Proofs.Room
import EventXref.Proofs.Scan
import EventXref.Proofs.ScopeOperations
import EventXref.Proofs.Session
import EventXref.Proofs.SharedLoads
import EventXref.Proofs.SharedStarts
import EventXref.Proofs.Simultaneous
import EventXref.Proofs.Tiling
import EventXref.Proofs.Tokenizer
import EventXref.Proofs.Traffic
import EventXref.Proofs.Transparency
import EventXref.Proofs.Ways
import EventXref.Proofs.WordChars
