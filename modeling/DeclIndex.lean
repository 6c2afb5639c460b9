import DeclIndex.Aiken.Function
import DeclIndex.Aiken.Head
import DeclIndex.Aiken.Parameters
import DeclIndex.Aiken.Scan
import DeclIndex.Aiken.Type
import DeclIndex.Bracket
import DeclIndex.Command.Arguments
import DeclIndex.Command.Printed
import DeclIndex.Command.Render
import DeclIndex.Command.Run
import DeclIndex.Decimal.Shortest
import DeclIndex.Decimal.Text
import DeclIndex.Declaration
import DeclIndex.Discovery
import DeclIndex.Json.Basic
import DeclIndex.Json.Literal
import DeclIndex.Json.Parser
import DeclIndex.Json.Printer
import DeclIndex.Library.Alias
import DeclIndex.Library.Archive
import DeclIndex.Library.ArchiveQuery
import DeclIndex.Library.Basic
import DeclIndex.Library.Dependency
import DeclIndex.Library.Query
import DeclIndex.Library.Record
import DeclIndex.Library.Store
import DeclIndex.Main
import DeclIndex.Module
import DeclIndex.Moment
import DeclIndex.Notice
import DeclIndex.Package
import DeclIndex.Path
import DeclIndex.Pattern.Basic
import DeclIndex.Pattern.Error
import DeclIndex.Pattern.Match
import DeclIndex.Pattern.Parser
import DeclIndex.Pattern.Piece
import DeclIndex.Pattern.Token
import DeclIndex.Project
import DeclIndex.Proofs.AikenHeads
import DeclIndex.Proofs.AikenParameters
import DeclIndex.Proofs.AikenScan
import DeclIndex.Proofs.AliasCount
import DeclIndex.Proofs.Aliases
import DeclIndex.Proofs.AttachedTests
import DeclIndex.Proofs.BlockComments
import DeclIndex.Proofs.BrokenHeads
import DeclIndex.Proofs.Collections
import DeclIndex.Proofs.CommentedExports
import DeclIndex.Proofs.Counters
import DeclIndex.Proofs.DeclaredNames
import DeclIndex.Proofs.DependencyWalk
import DeclIndex.Proofs.DocumentationBlocks
import DeclIndex.Proofs.DocumentationComments
import DeclIndex.Proofs.ExactMatches
import DeclIndex.Proofs.FailingPackages
import DeclIndex.Proofs.FieldMatches
import DeclIndex.Proofs.FileTree
import DeclIndex.Proofs.FoundFiles
import DeclIndex.Proofs.FunctionLines
import DeclIndex.Proofs.FunctionText
import DeclIndex.Proofs.HeadPatterns
import DeclIndex.Proofs.Importers
import DeclIndex.Proofs.Indentation
import DeclIndex.Proofs.InlineExports
import DeclIndex.Proofs.JsonText
import DeclIndex.Proofs.LineBreaks
import DeclIndex.Proofs.LineNumbers
import DeclIndex.Proofs.LinesAbove
import DeclIndex.Proofs.ListedLines
import DeclIndex.Proofs.Loading
import DeclIndex.Proofs.MatchingBrackets
import DeclIndex.Proofs.ModuleNames
import DeclIndex.Proofs.ModuleOrder
import DeclIndex.Proofs.Modules
import DeclIndex.Proofs.PairedBrackets
import DeclIndex.Proofs.ParameterLists
import DeclIndex.Proofs.Persistence
import DeclIndex.Proofs.PublicOnly
import DeclIndex.Proofs.QuotedLiterals
import DeclIndex.Proofs.Ranking
import DeclIndex.Proofs.ReExportingLines
import DeclIndex.Proofs.Readers
import DeclIndex.Proofs.Records
import DeclIndex.Proofs.ReorderedTrees
import DeclIndex.Proofs.ReplacedModules
import DeclIndex.Proofs.ScoreOrder
import DeclIndex.Proofs.SettingLayers
import DeclIndex.Proofs.Sightings
import DeclIndex.Proofs.SignatureLines
import DeclIndex.Proofs.SourceFiles
import DeclIndex.Proofs.StoredDeclarations
import DeclIndex.Proofs.StoredFaults
import DeclIndex.Proofs.Substrings
import DeclIndex.Proofs.Table
import DeclIndex.Proofs.TopLevelCommas
import DeclIndex.Proofs.TypeScriptParameters
import DeclIndex.Proofs.TypeScriptPatterns
import DeclIndex.Proofs.TypeScriptScan
import DeclIndex.Proofs.WordsInOrder
import DeclIndex.Registry
import DeclIndex.Search.Item
import DeclIndex.Search.Rank
import DeclIndex.Search.Score
import DeclIndex.Settings
import DeclIndex.Table
import DeclIndex.Text.Blank
import DeclIndex.Text.CaseVariant
import DeclIndex.Text.CodeSet
import DeclIndex.Text.Decode
import DeclIndex.Text.Digit
import DeclIndex.Text.Find
import DeclIndex.Text.Ident
import DeclIndex.Text.Lines
import DeclIndex.Text.Lower
import DeclIndex.Text.Printable
import DeclIndex.Text.Quoted
import DeclIndex.Text.WordChar
import DeclIndex.Toml.Document
import DeclIndex.Toml.Token
import DeclIndex.Tree
import DeclIndex.TypeScript.Export
import DeclIndex.TypeScript.Function
import DeclIndex.TypeScript.Head
import DeclIndex.TypeScript.Parameters
import DeclIndex.TypeScript.Scan
import DeclIndex.Value.Basic
import DeclIndex.Value.Integer
import DeclIndex.Value.Text
