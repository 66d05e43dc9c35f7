import ChartParser.Grammar.Printer
import ChartParser.Main
import ChartParser.Proofs.Forest.Combinations
import ChartParser.Proofs.Grammar.WellFormed
import ChartParser.Proofs.Morphology.Headers
import ChartParser.Proofs.Morphology.Literals
import ChartParser.Proofs.Morphology.Narrowing
import ChartParser.Proofs.Morphology.Spelling
import ChartParser.Proofs.Morphology.Valency
import ChartParser.Proofs.Morphology.VerbForms
import ChartParser.Proofs.Notation.Heads
import ChartParser.Proofs.Notation.Resolution
import ChartParser.Proofs.Notation.RoundTrip
import ChartParser.Proofs.Parser.Bracketed
import ChartParser.Proofs.Parser.Branching
import ChartParser.Proofs.Parser.Columns
import ChartParser.Proofs.Parser.Monotonicity
import ChartParser.Proofs.Parser.Order
import ChartParser.Proofs.Parser.Printing
import ChartParser.Proofs.Parser.Sharing
import ChartParser.Proofs.Parser.Survival
import ChartParser.Proofs.Session.Answers
