import TextSieve.Command.Arguments
import TextSieve.Command.FileTree
import TextSieve.Command.Log
import TextSieve.Command.Options
import TextSieve.Command.Refusal
import TextSieve.Command.Run
import TextSieve.Command.TimeStamp
import TextSieve.FilePath
import TextSieve.Filter.Basic
import TextSieve.Filter.Diagnostic
import TextSieve.Filter.Document
import TextSieve.Filter.Event
import TextSieve.Filter.Reading
import TextSieve.Format
import TextSieve.Json.Error
import TextSieve.Json.Number
import TextSieve.Json.Reader
import TextSieve.Json.Value
import TextSieve.Json.Writer
import TextSieve.Keyed
import TextSieve.Main
import TextSieve.Number.Binary64
import TextSieve.Number.Shortest
import TextSieve.Output.Readable
import TextSieve.Output.Records
import TextSieve.Output.Styled
import TextSieve.Regex.Basic
import TextSieve.Regex.Error
import TextSieve.Regex.Expr
import TextSieve.Regex.Fold
import TextSieve.Regex.Footprint
import TextSieve.Regex.Form
import TextSieve.Regex.Meaning
import TextSieve.Regex.Nesting
import TextSieve.Regex.Parse.Atom
import TextSieve.Regex.Parse.Class
import TextSieve.Regex.Parse.Group
import TextSieve.Regex.Parse.Pattern
import TextSieve.Regex.Place
import TextSieve.Regex.Property
import TextSieve.Regex.Report
import TextSieve.Regex.Search
import TextSieve.Regex.Syntax
import TextSieve.Regex.Unicode.Ages
import TextSieve.Regex.Unicode.Breaks
import TextSieve.Regex.Unicode.CaseOrbits
import TextSieve.Regex.Unicode.Categories
import TextSieve.Regex.Unicode.Letters
import TextSieve.Regex.Unicode.Properties
import TextSieve.Regex.Unicode.ScriptExtensions
import TextSieve.Regex.Unicode.Scripts
import TextSieve.Rule.Basic
import TextSieve.Rule.Comparison
import TextSieve.Rule.Methods
import TextSieve.Rule.Search
import TextSieve.Text.Basic
import TextSieve.Text.CaseTable
import TextSieve.Text.CharSet
import TextSieve.Text.Lines
import TextSieve.Text.Lowercase
import TextSieve.Text.Quoted
import TextSieve.Text.Unprintable
import TextSieve.Toml.Blank
import TextSieve.Toml.Datum
import TextSieve.Toml.Error
import TextSieve.Toml.Key
import TextSieve.Toml.Moment
import TextSieve.Toml.Number
import TextSieve.Toml.Quoted
import TextSieve.Toml.Reader
import TextSieve.Toml.Table
import TextSieve.Proofs.Recovery
import TextSieve.Proofs.Grammar
import TextSieve.Proofs.JsonRoundTrip
import TextSieve.Proofs.Export
import TextSieve.Proofs.Sinks
import TextSieve.Proofs.Wishes
import TextSieve.Proofs.Evaluation
import TextSieve.Proofs.RecordLines
import TextSieve.Proofs.ExitCodes
import TextSieve.Proofs.Consistency
import TextSieve.Proofs.JsonCharacters
import TextSieve.Proofs.RecordDecoding
import TextSieve.Proofs.Accounting
import TextSieve.Proofs.ByteOrder
import TextSieve.Proofs.Registries
import TextSieve.Proofs.Extension
import TextSieve.Proofs.TomlTokens
import TextSieve.Proofs.TomlTables
import TextSieve.Proofs.TomlTypes
import TextSieve.Proofs.Notations
import TextSieve.Proofs.NormalForms
import TextSieve.Proofs.ErrorKinds
import TextSieve.Proofs.InputLines
import TextSieve.Proofs.Warnings
import TextSieve.Proofs.LowerCase
import TextSieve.Proofs.Occurrences
import TextSieve.Proofs.CaseSwitching
import TextSieve.Proofs.FinalSigma
import TextSieve.Proofs.Trail
import TextSieve.Proofs.SearchMeaning
import TextSieve.Proofs.SetOperations
import TextSieve.Proofs.Simplification
import TextSieve.Proofs.LiteralPatterns
import TextSieve.Proofs.QuotedTexts
import TextSieve.Proofs.VerdictLines
import TextSieve.Proofs.ListingLines
import TextSieve.Proofs.ColouredOutput
import TextSieve.Proofs.StreamLines
import TextSieve.Proofs.LiteralInputs
import TextSieve.Proofs.JsonTrees
import TextSieve.Proofs.RenderedNames
import TextSieve.Proofs.FileNames
