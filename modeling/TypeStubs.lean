import TypeStubs.Command.Arguments
import TypeStubs.Command.Generate
import TypeStubs.Command.Host
import TypeStubs.Command.Init
import TypeStubs.Command.Outcome
import TypeStubs.Command.Run
import TypeStubs.Decimal.Shortest
import TypeStubs.Declaration.Client
import TypeStubs.Declaration.Enum
import TypeStubs.Declaration.Interface
import TypeStubs.Declaration.Style
import TypeStubs.Heritage
import TypeStubs.Identifier
import TypeStubs.Imports.Resolve
import TypeStubs.Imports.Symbols
import TypeStubs.Json.Decode
import TypeStubs.Json.Node
import TypeStubs.Json.Number
import TypeStubs.Json.Reader
import TypeStubs.Json.Value
import TypeStubs.Keyed
import TypeStubs.Layout
import TypeStubs.Main
import TypeStubs.Ordered
import TypeStubs.Output.ImportBlock
import TypeStubs.Output.Module
import TypeStubs.Output.Namespace
import TypeStubs.Output.Report
import TypeStubs.Route.Placeholder
import TypeStubs.Route.Template
import TypeStubs.Route.Verb
import TypeStubs.Settings.Basic
import TypeStubs.Settings.Data
import TypeStubs.Settings.Environment
import TypeStubs.Source.Basic
import TypeStubs.Source.Json
import TypeStubs.Source.Load
import TypeStubs.Storage.Disk
import TypeStubs.Storage.Memory
import TypeStubs.Storage.Path
import TypeStubs.Storage.SystemError
import TypeStubs.Storage.Tree
import TypeStubs.Text.Blank
import TypeStubs.Text.Case
import TypeStubs.Text.Letter
import TypeStubs.Text.Pieces
import TypeStubs.Text.Utf8
import TypeStubs.Toml.Document
import TypeStubs.Toml.Scalar
import TypeStubs.Toml.Table
import TypeStubs.TypeExpr.Basic
import TypeStubs.TypeExpr.Lexeme
import TypeStubs.TypeExpr.Parse
import TypeStubs.TypeExpr.Render
import TypeStubs.TypeExpr.Table
import TypeStubs.Proofs.SignatureGrammar
import TypeStubs.Proofs.SignatureLexemes
import TypeStubs.Proofs.SignatureUnambiguity
import TypeStubs.Proofs.SignatureReading
import TypeStubs.Proofs.ImportRelation
import TypeStubs.Proofs.ModuleLinks
import TypeStubs.Proofs.NameClosure
import TypeStubs.Proofs.FileOutlines
import TypeStubs.Proofs.ImportGrowth
import TypeStubs.Proofs.MemoryFiles
import TypeStubs.Proofs.OutputPaths
import TypeStubs.Proofs.RunAccounts
import TypeStubs.Proofs.CompactText
import TypeStubs.Proofs.KeyedLists
import TypeStubs.Proofs.RecordReading
import TypeStubs.Proofs.DescriptionRoundTrip
import TypeStubs.Proofs.SignatureTrees
import TypeStubs.Proofs.QualifiedHeads
import TypeStubs.Proofs.SignatureBlanks
import TypeStubs.Proofs.QuestionMarks
import TypeStubs.Proofs.PrintedLayers
import TypeStubs.Proofs.OwnNames
import TypeStubs.Proofs.LooseDescriptions
import TypeStubs.Proofs.DiskFiles
import TypeStubs.Proofs.CommandEffects
import TypeStubs.Proofs.LexicalPaths
import TypeStubs.Proofs.ModuleSpecifiers
import TypeStubs.Proofs.DistinctOutputs
import TypeStubs.Proofs.RouteHoles
import TypeStubs.Proofs.HoleReduction
import TypeStubs.Proofs.RouteParts
import TypeStubs.Proofs.RequestStubs
import TypeStubs.Proofs.RootCuts
import TypeStubs.Proofs.OutputContainment
import TypeStubs.Proofs.StubNames
import TypeStubs.Proofs.PathSlots
import TypeStubs.Proofs.TemplateLiterals
import TypeStubs.Proofs.AddressLiterals
import TypeStubs.Proofs.NameWords
import TypeStubs.Proofs.OptionalParameters
import TypeStubs.Proofs.VariableSubstitution
import TypeStubs.Proofs.ImportLinks
import TypeStubs.Proofs.ImportBindings
import TypeStubs.Proofs.DeclaredNames
import TypeStubs.Proofs.NamespaceLayers
import TypeStubs.Proofs.HoleBinding
import TypeStubs.Proofs.EntryLiterals
