import RecordFilter.Text.Alphabetic
import RecordFilter.Text.Numeric
import RecordFilter.Text.Blank
import RecordFilter.Text.Cased
import RecordFilter.Text.CaseTable
import RecordFilter.Text.Hidden
import RecordFilter.Text.Casing
import RecordFilter.Text.Search
import RecordFilter.Text.Pieces
import RecordFilter.Text.Quoted
import RecordFilter.Decimal.Floating
import RecordFilter.Decimal.Layout
import RecordFilter.Host
import RecordFilter.Schema
import RecordFilter.Token.Stream
import RecordFilter.Expr.Printer
import RecordFilter.Expr.Parser
import RecordFilter.Constant
import RecordFilter.Plan
import RecordFilter.Predicate
import RecordFilter.Criteria
import RecordFilter.Json.Writer
import RecordFilter.Json.Reader
import RecordFilter.Json.Limits
import RecordFilter.Json.Tree
import RecordFilter.CommandLine.Run
import RecordFilter.Main
import RecordFilter.Proofs.Conformance
import RecordFilter.Proofs.Except
import RecordFilter.Proofs.PlanTyping
import RecordFilter.Proofs.ElaborationSteps
import RecordFilter.Proofs.TypeSoundness
import RecordFilter.Proofs.Presence
import RecordFilter.Proofs.DeclaredAccess
import RecordFilter.Proofs.AccessOrder
import RecordFilter.Proofs.Grammar
import RecordFilter.Proofs.ParserInvariant
import RecordFilter.Proofs.LexemeExtent
import RecordFilter.Proofs.LexemeClass
import RecordFilter.Proofs.Lexing
import RecordFilter.Proofs.ParserCorrect
import RecordFilter.Proofs.Alike
import RecordFilter.Proofs.ElaborationAlike
import RecordFilter.Proofs.Composition
import RecordFilter.Proofs.TokenPlaces
import RecordFilter.Proofs.Tokenization
import RecordFilter.Proofs.ExprPlaces
import RecordFilter.Proofs.ParserErrors
import RecordFilter.Proofs.ElaborationErrors
import RecordFilter.Proofs.NestingCounter
import RecordFilter.Proofs.ErrorLocality
import RecordFilter.Proofs.LimitTransparency
import RecordFilter.Proofs.NestingBound
import RecordFilter.Proofs.BlankCharacters
import RecordFilter.Proofs.TokenReading
import RecordFilter.Proofs.MemberComparison
import RecordFilter.Proofs.CriteriaAgreement
import RecordFilter.Proofs.PrintedTokens
import RecordFilter.Proofs.Reparsing
import RecordFilter.Proofs.Spacing
import RecordFilter.Proofs.TextConstants
import RecordFilter.Proofs.VariantNames
import RecordFilter.Proofs.DoubleRounding
import RecordFilter.Proofs.IntegerDoubles
import RecordFilter.Proofs.IntegerLiterals
import RecordFilter.Proofs.ParserStops
import RecordFilter.Proofs.ViablePrefix
import RecordFilter.Proofs.OpenParentheses
import RecordFilter.Proofs.Operands
import RecordFilter.Proofs.ComparisonLaws
import RecordFilter.Proofs.ComparisonMethods
import RecordFilter.Proofs.ComparisonTyping
import RecordFilter.Proofs.OverloadResolution
import RecordFilter.Proofs.NameResolution
import RecordFilter.Proofs.CriteriaNormalForm
import RecordFilter.Proofs.CriteriaFixedPoints
import RecordFilter.Proofs.AdjacentTexts
import RecordFilter.Proofs.SourceOrder
import RecordFilter.Proofs.ShallowNesting
import RecordFilter.Proofs.SourceLines
import RecordFilter.Proofs.Occurrence
import RecordFilter.Proofs.TextSearch
