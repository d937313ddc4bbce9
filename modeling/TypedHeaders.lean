import TypedHeaders.Text.CharClass
import TypedHeaders.Text.Blank
import TypedHeaders.Text.DecimalDigit
import TypedHeaders.Text.CasingTable
import TypedHeaders.Text.Casing
import TypedHeaders.Text.Printable
import TypedHeaders.Text.Quoted
import TypedHeaders.Text.Latin
import TypedHeaders.Numeral.Digits
import TypedHeaders.Numeral.Grouped
import TypedHeaders.Numeral.Scientific
import TypedHeaders.Numeral.Binary64
import TypedHeaders.Numeral.Shortest
import TypedHeaders.Numeral.Decimal
import TypedHeaders.Number
import TypedHeaders.Atom
import TypedHeaders.Enumeration
import TypedHeaders.Template
import TypedHeaders.Value
import TypedHeaders.Value.Element
import TypedHeaders.Value.Shown
import TypedHeaders.Limits
import TypedHeaders.TypeExpr
import TypedHeaders.TypeExpr.Shown
import TypedHeaders.Cast
import TypedHeaders.Problem
import TypedHeaders.Conversion.Fit
import TypedHeaders.Conversion.Scalar
import TypedHeaders.Conversion.Choice
import TypedHeaders.Conversion.Bounds
import TypedHeaders.Conversion.Check
import TypedHeaders.Conversion.Schema
import TypedHeaders.Conversion.Build
import TypedHeaders.Conversion
import TypedHeaders.Failure
import TypedHeaders.Headers
import TypedHeaders.Settings
import TypedHeaders.Naming
import TypedHeaders.Resolution
import TypedHeaders.Record
import TypedHeaders.Parameter
import TypedHeaders.Binding
import TypedHeaders.Feed
import TypedHeaders.BindingSet
import TypedHeaders.Handler
import TypedHeaders.Document
import TypedHeaders.Metrics
import TypedHeaders.Demo
import TypedHeaders.Service
import TypedHeaders.Catalogue
import TypedHeaders.CommandLine
import TypedHeaders.Main
import TypedHeaders.Proofs.Results
import TypedHeaders.Proofs.Binding
import TypedHeaders.Proofs.Populate
import TypedHeaders.Proofs.Policy
import TypedHeaders.Proofs.Resolution
import TypedHeaders.Proofs.Checks
import TypedHeaders.Proofs.Collections
import TypedHeaders.Proofs.ArrayConversion
import TypedHeaders.Proofs.Fields
import TypedHeaders.Proofs.Inhabitants
import TypedHeaders.Proofs.Soundness
import TypedHeaders.Proofs.Declaration
import TypedHeaders.Proofs.TypeSafety
import TypedHeaders.Proofs.Records
import TypedHeaders.Proofs.AbsentRecords
import TypedHeaders.Proofs.Lookups
import TypedHeaders.Proofs.Digits
import TypedHeaders.Proofs.Scientific
import TypedHeaders.Proofs.Integers
import TypedHeaders.Proofs.RoundTrip
import TypedHeaders.Proofs.Comparison
import TypedHeaders.Proofs.Limits
import TypedHeaders.Proofs.Bounds
import TypedHeaders.Proofs.Refusals
import TypedHeaders.Proofs.Blame
import TypedHeaders.Proofs.Layout
import TypedHeaders.Proofs.Counters
import TypedHeaders.Proofs.Demos
import TypedHeaders.Proofs.Requests
import TypedHeaders.Proofs.Surfaces
import TypedHeaders.Proofs.Grammar
import TypedHeaders.Proofs.BindPaths
import TypedHeaders.Proofs.Natives
import TypedHeaders.Proofs.Answers
import TypedHeaders.Proofs.Blanks
import TypedHeaders.Proofs.CaseMappings
import TypedHeaders.Proofs.Templates
import TypedHeaders.Proofs.TextSteps
import TypedHeaders.Proofs.Buildable
import TypedHeaders.Proofs.Settling
import TypedHeaders.Proofs.Remarks
import TypedHeaders.Proofs.Assembly
import TypedHeaders.Proofs.Absence
import TypedHeaders.Proofs.Arrays
import TypedHeaders.Proofs.Views
import TypedHeaders.Proofs.Lines
import TypedHeaders.Proofs.BareTexts
import TypedHeaders.Proofs.Decimals
import TypedHeaders.Proofs.NumberCasts
import TypedHeaders.Proofs.Nilability
import TypedHeaders.Proofs.Descriptors
import TypedHeaders.Proofs.ShortFeeds
import TypedHeaders.Proofs.Unions
import TypedHeaders.Proofs.Tokens
import TypedHeaders.Proofs.Histories
