import Phrasebook.Files.Tree
import Phrasebook.Main
import Phrasebook.Value.Literal
import Phrasebook.Proofs.Check.Mentions
import Phrasebook.Proofs.Check.Provenance
import Phrasebook.Proofs.Check.Redefinition
import Phrasebook.Proofs.Check.Soundness
import Phrasebook.Proofs.Check.Unused
import Phrasebook.Proofs.CommandLine.Check
import Phrasebook.Proofs.Evaluator.Arguments
import Phrasebook.Proofs.Evaluator.Choice
import Phrasebook.Proofs.Evaluator.Cycles
import Phrasebook.Proofs.Evaluator.Demands
import Phrasebook.Proofs.Evaluator.Exchange
import Phrasebook.Proofs.Evaluator.Growth
import Phrasebook.Proofs.Evaluator.Joining
import Phrasebook.Proofs.Evaluator.Selection
import Phrasebook.Proofs.Evaluator.Surfacing
import Phrasebook.Proofs.Evaluator.Surroundings
import Phrasebook.Proofs.Evaluator.Variables
import Phrasebook.Proofs.Expression.Edges
import Phrasebook.Proofs.Expression.Writing
import Phrasebook.Proofs.Number.Rounding
import Phrasebook.Proofs.Registry.Definitions
import Phrasebook.Proofs.Template.Concatenation
import Phrasebook.Proofs.Template.Islands
import Phrasebook.Proofs.Template.LineEnds
import Phrasebook.Proofs.Template.Literal
import Phrasebook.Proofs.Template.Parameters
import Phrasebook.Proofs.Template.WellFormed
import Phrasebook.Proofs.Text.Splitting
import Phrasebook.Proofs.Token.Spans
import Phrasebook.Proofs.Value.Comparison
import Phrasebook.Proofs.Value.Equality
import Phrasebook.Proofs.Value.Fields
import Phrasebook.Proofs.Text.Span
import Phrasebook.Proofs.Value.Arithmetic
import Phrasebook.Proofs.Value.Extremum
import Phrasebook.Proofs.Template.Highlight
