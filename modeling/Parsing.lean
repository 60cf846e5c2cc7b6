import Parsing.AnyParser
import Parsing.Characters
import Parsing.Eval
import Parsing.Fault
import Parsing.Log
import Parsing.Message
import Parsing.Parser.Basic
import Parsing.Parser.Chain
import Parsing.Parser.Choice
import Parsing.Parser.Recursion
import Parsing.Parser.Rejection
import Parsing.Parser.Repetition
import Parsing.Parser.Sequence
import Parsing.Parser.Trace
import Parsing.Position
import Parsing.Proofs.Combinators
import Parsing.Proofs.Consumption
import Parsing.Proofs.Grammar
import Parsing.Proofs.Invariant.Basic
import Parsing.Proofs.Invariant.Grammar
import Parsing.Proofs.Repetition.Loop
import Parsing.Proofs.Repetition.Recursion
import Parsing.Proofs.Returns
import Parsing.Proofs.Sequence
import Parsing.Proofs.Span
import Parsing.Proofs.Stretch
import Parsing.Proofs.TokenParser
import Parsing.Proofs.TokenRun
import Parsing.Registry
import Parsing.Result
import Parsing.Run
import Parsing.Source.Basic
import Parsing.Source.Tokenizer
import Parsing.SourceMap
import Parsing.State
import Parsing.Text.Numeral
import Parsing.Text.Quoted
import Parsing.TokenParser
import Parsing.Tokens
import Parsing.Unicode.Blank
import Parsing.Unicode.CodePoints
import Parsing.Unicode.Decimal
import Parsing.Unicode.Digit
import Parsing.Unicode.Letter
import Parsing.Unicode.Lowercase
import Parsing.Unicode.Numeric
import Parsing.Unicode.Printable
import Parsing.Unicode.Titlecase
import Parsing.Unicode.Uppercase
import Parsing.Value.Application
import Parsing.Value.Arithmetic
import Parsing.Value.Attribute
import Parsing.Value.Basic
import Parsing.Value.Equality
import Parsing.Value.Sequence
import Parsing.Value.Test
import Parsing.Value.Text
import Parsing.Proofs.Failure
import Parsing.Proofs.Faults
import Parsing.Proofs.Repetition.Ending
import Parsing.Proofs.Repetition.Unrepeatable
import Parsing.Proofs.TokenFault
import Parsing.Proofs.TextPosition
import Parsing.Proofs.Run
import Parsing.Proofs.Pipeline
import Parsing.Proofs.Correspondence.Basic
import Parsing.Proofs.Correspondence.Combinators
import Parsing.Proofs.Correspondence.Grammar
import Parsing.Proofs.Locality
import Parsing.Proofs.Representation
import Parsing.Proofs.Keyword
import Parsing.Proofs.Lawful
import Parsing.Proofs.Choice
import Parsing.Proofs.Backtracking
import Parsing.Proofs.Registration
import Parsing.Proofs.Logging.Nesting
import Parsing.Proofs.Logging.Discreet
import Parsing.Proofs.Logging.Unnaming
import Parsing.Proofs.Logging.Combinators
import Parsing.Proofs.Logging.Erasure
import Parsing.Proofs.Logging.Transparency
import Parsing.Proofs.BindLaws
import Parsing.Proofs.Repetition.Unfolding
import Parsing.Proofs.Chain
import Parsing.Proofs.Repetition.Separation
import Parsing.Proofs.Spelling
import Parsing.Proofs.KeywordChoice
import Parsing.Proofs.SingleToken
import Parsing.Proofs.Alternatives
import Parsing.Proofs.Rejection
import Parsing.Proofs.Repetition.Counting
import Parsing.Proofs.Parentheses
