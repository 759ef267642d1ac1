import BenchSuite.Catalog
import BenchSuite.CommandLine.Arguments
import BenchSuite.CommandLine.Choice
import BenchSuite.CommandLine.Options
import BenchSuite.CommandLine.Parser
import BenchSuite.Config
import BenchSuite.Files.Path
import BenchSuite.Files.Tree
import BenchSuite.Json.Basic
import BenchSuite.Json.Parser
import BenchSuite.Json.Printer
import BenchSuite.Listing
import BenchSuite.Main
import BenchSuite.Manifest.Basic
import BenchSuite.Manifest.Definitions
import BenchSuite.Manifest.Document
import BenchSuite.Manifest.Loading
import BenchSuite.Manifest.Suite
import BenchSuite.Names.NameMap
import BenchSuite.Names.NameRule
import BenchSuite.Names.NameSet
import BenchSuite.Program
import BenchSuite.Report
import BenchSuite.Run.Basic
import BenchSuite.Run.Failure
import BenchSuite.Run.Notice
import BenchSuite.Selection.Basic
import BenchSuite.Selection.Expression
import BenchSuite.Selection.NegationGuard
import BenchSuite.Selection.Pattern
import BenchSuite.Selection.Resolution
import BenchSuite.Text.Blank
import BenchSuite.Text.CaseTable
import BenchSuite.Text.Hexadecimal
import BenchSuite.Text.HiddenTable
import BenchSuite.Text.Lowercase
import BenchSuite.Text.Quoted
import BenchSuite.Text.Ranges
import BenchSuite.Text.Separated
import BenchSuite.Text.Word
import BenchSuite.Text.WordTable
import BenchSuite.Yaml.Character
import BenchSuite.Yaml.Cursor
import BenchSuite.Yaml.Document
import BenchSuite.Yaml.Node
import BenchSuite.Yaml.Scalar
import BenchSuite.Yaml.Token
import BenchSuite.Yaml.Tokens
import BenchSuite.Proofs.FallibleComputation
import BenchSuite.Proofs.Selection.Covering
import BenchSuite.Proofs.Manifest.References
import BenchSuite.Proofs.Manifest.Defects
import BenchSuite.Proofs.Manifest.GroupSearch
import BenchSuite.Proofs.Manifest.SearchRecord
import BenchSuite.Proofs.Manifest.SearchCalls
import BenchSuite.Proofs.Manifest.Registration
import BenchSuite.Proofs.Manifest.Checking
import BenchSuite.Proofs.Manifest.Soundness
import BenchSuite.Proofs.Manifest.Equations
import BenchSuite.Proofs.Manifest.Representation
import BenchSuite.Proofs.Names.Spelling
import BenchSuite.Proofs.Names.Compounds
import BenchSuite.Proofs.Selection.Entries
import BenchSuite.Proofs.Files.Writing
import BenchSuite.Proofs.Run.Demands
import BenchSuite.Proofs.Run.Isolation
import BenchSuite.Proofs.Selection.Grammar
import BenchSuite.Proofs.Selection.PrintedForm
import BenchSuite.Proofs.Selection.Unsupported
import BenchSuite.Proofs.CommandLine.LongForms
import BenchSuite.Proofs.CommandLine.SharedOptions
import BenchSuite.Proofs.CommandLine.ChoiceOption
import BenchSuite.Proofs.Manifest.Extension
import BenchSuite.Proofs.Manifest.Reordering
import BenchSuite.Proofs.CommandLine.Counterparts
import BenchSuite.Proofs.Run.Agreement
import BenchSuite.Proofs.Run.Notices
import BenchSuite.Proofs.Run.Verbosity
import BenchSuite.Proofs.Text.CharacterClasses
import BenchSuite.Proofs.Text.SmallForms
import BenchSuite.Proofs.Names.SmallLetters
import BenchSuite.Proofs.Selection.PlainNames
import BenchSuite.Proofs.Manifest.OwnNames
import BenchSuite.Proofs.Selection.Concreteness
import BenchSuite.Proofs.Run.Refusals
import BenchSuite.Proofs.Run.ChosenNames
import BenchSuite.Proofs.Selection.Rearranging
import BenchSuite.Proofs.Selection.Parts
import BenchSuite.Proofs.Manifest.Inlining
import BenchSuite.Proofs.Manifest.Complements
import BenchSuite.Proofs.Manifest.Reselecting
import BenchSuite.Proofs.Selection.Exclusions
import BenchSuite.Proofs.Selection.Joining
import BenchSuite.Proofs.Selection.NormalForm
import BenchSuite.Proofs.Selection.Lowercasing
import BenchSuite.Proofs.Text.Lines
import BenchSuite.Proofs.Listing.Benchmarks
import BenchSuite.Proofs.Listing.Groups
import BenchSuite.Proofs.Json.Texts
import BenchSuite.Proofs.Json.RoundTrip
import BenchSuite.Proofs.Json.Reports
import BenchSuite.Proofs.Files.Following
import BenchSuite.Proofs.Files.OrdinaryNames
import BenchSuite.Proofs.Run.Blindness
import BenchSuite.Proofs.Run.Relocation
