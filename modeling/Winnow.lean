import Winnow.CommandLine.Arguments
import Winnow.CommandLine.Execution
import Winnow.CommandLine.Grammar
import Winnow.Decompiler
import Winnow.Engine
import Winnow.FileTree
import Winnow.Glob
import Winnow.Home
import Winnow.Image
import Winnow.Importance
import Winnow.Json
import Winnow.Log
import Winnow.Main
import Winnow.Metadata
import Winnow.Metadata.Table
import Winnow.ModuleFile
import Winnow.ModuleScan
import Winnow.Moment
import Winnow.NamePattern
import Winnow.Number.Reading
import Winnow.Number.Shortest
import Winnow.Outcome
import Winnow.Outputs
import Winnow.Path
import Winnow.Pattern
import Winnow.Pattern.CharTest
import Winnow.Pattern.Error
import Winnow.Pattern.Program
import Winnow.Pattern.Reader
import Winnow.Pattern.Syntax
import Winnow.Pattern.Width
import Winnow.Rule
import Winnow.RuleSet
import Winnow.Run
import Winnow.RunReport
import Winnow.Settings
import Winnow.Shell.Arithmetic
import Winnow.Shell.Field
import Winnow.Shell.Program
import Winnow.Shell.Script
import Winnow.Shell.Session
import Winnow.Shell.Utility
import Winnow.Shell.Word
import Winnow.Site
import Winnow.Text.Base64
import Winnow.Text.Blank
import Winnow.Text.CaseFold
import Winnow.Text.CaseVariant
import Winnow.Text.CharacterName
import Winnow.Text.CharacterName.Alias
import Winnow.Text.CharacterName.EastAsia
import Winnow.Text.CharacterName.OldScripts
import Winnow.Text.CharacterName.Pictures
import Winnow.Text.CharacterName.Scripts
import Winnow.Text.CharacterName.Symbols
import Winnow.Text.CodeText
import Winnow.Text.Decimal
import Winnow.Text.Identifier
import Winnow.Text.Letter
import Winnow.Text.LowerCase
import Winnow.Text.Numeral
import Winnow.Text.Printable
import Winnow.Text.Quoted
import Winnow.Text.Ranges
import Winnow.Text.UpperCase
import Winnow.Text.Utf8
import Winnow.TypeName
import Winnow.TypeTable
import Winnow.Yaml.Cursor
import Winnow.Yaml.Fault
import Winnow.Yaml.Node
import Winnow.Yaml.Scalar
import Winnow.Yaml.ScalarText
import Winnow.Yaml.Tag
import Winnow.Yaml.Token
import Winnow.Yaml.Value
import Winnow.Proofs.FileTree
import Winnow.Proofs.Files
import Winnow.Proofs.Writing
import Winnow.Proofs.TypeStep
import Winnow.Proofs.Claiming
import Winnow.Proofs.ModuleStep
import Winnow.Proofs.ModuleEffect
import Winnow.Proofs.Completion
import Winnow.Proofs.Pruning
import Winnow.Proofs.Survival
import Winnow.Proofs.Conversation
import Winnow.Proofs.Folding
import Winnow.Proofs.Serving
import Winnow.Proofs.Verdict
import Winnow.Proofs.Unrelated
import Winnow.Proofs.Clearing
import Winnow.Proofs.Evolution
import Winnow.Proofs.Rerun
import Winnow.Proofs.Nesting
import Winnow.Proofs.Conservation
import Winnow.Proofs.Agreement
import Winnow.Proofs.Passing
import Winnow.Proofs.Atomicity
import Winnow.Proofs.Staging
import Winnow.Proofs.Staleness
import Winnow.Proofs.BuiltinRules
import Winnow.Proofs.WrittenPatterns
import Winnow.Proofs.RulesInForce
import Winnow.Proofs.Widening
import Winnow.Proofs.Handles
import Winnow.Proofs.SettingsValues
import Winnow.Proofs.SettingsFile
import Winnow.Proofs.Decoding
import Winnow.Proofs.Transcript
import Winnow.Proofs.SettingsParts
import Winnow.Proofs.Unusable
import Winnow.Proofs.Settled
import Winnow.Proofs.Lowering
import Winnow.Proofs.CaseBlindness
import Winnow.Proofs.FoldedPrefixes
import Winnow.Proofs.ScanOrder
import Winnow.Proofs.LogSinks
