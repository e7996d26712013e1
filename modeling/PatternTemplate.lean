import PatternTemplate.Template.Log
import PatternTemplate.Main
import PatternTemplate.Proofs.Pattern.Spelling
import PatternTemplate.Proofs.Pattern.WellFormed
import PatternTemplate.Proofs.Pattern.Escape
import PatternTemplate.Proofs.Pattern.Lexeme
import PatternTemplate.Proofs.Pattern.Run
import PatternTemplate.Proofs.Pattern.Soundness
import PatternTemplate.Proofs.Pattern.Shape
import PatternTemplate.Proofs.Pattern.Marks
import PatternTemplate.Proofs.Pattern.Printing
import PatternTemplate.Proofs.Pattern.RoundTrip
import PatternTemplate.Proofs.Pattern.Zone
import PatternTemplate.Proofs.Pattern.Numbering
import PatternTemplate.Proofs.Pattern.Brackets
import PatternTemplate.Proofs.Pattern.Lookahead
import PatternTemplate.Proofs.Pattern.Renumbering
import PatternTemplate.Proofs.Pattern.Grouping
import PatternTemplate.Proofs.Template.Denotation
import PatternTemplate.Proofs.Template.Ledger
import PatternTemplate.Proofs.Template.Remains
import PatternTemplate.Proofs.Template.Piece
import PatternTemplate.Proofs.Template.Leaf
import PatternTemplate.Proofs.Template.Growth
import PatternTemplate.Proofs.Template.Visible
import PatternTemplate.Proofs.Template.Pass
import PatternTemplate.Proofs.Template.Modes
import PatternTemplate.Proofs.Template.Veil
import PatternTemplate.Proofs.Template.Settled
import PatternTemplate.Proofs.Template.Convergence
import PatternTemplate.Proofs.Template.Frame
import PatternTemplate.Proofs.Template.Choice
import PatternTemplate.Proofs.Template.Legible
import PatternTemplate.Proofs.Template.Identity
import PatternTemplate.Proofs.Pattern.Evidence
import PatternTemplate.Proofs.Pattern.Reference
import PatternTemplate.Proofs.Template.Condition
import PatternTemplate.Proofs.Template.Branch
import PatternTemplate.Proofs.Text.Word
import PatternTemplate.Proofs.Pattern.Bounds
import PatternTemplate.Proofs.Pattern.CodePoint
import PatternTemplate.Proofs.Template.Trace
import PatternTemplate.Proofs.Template.Literal
import PatternTemplate.Proofs.Flags
import PatternTemplate.Proofs.CommandLine
import PatternTemplate.Proofs.Pattern.Descent
import PatternTemplate.Proofs.Pattern.Cursor
import PatternTemplate.Proofs.Pattern.Atom
import PatternTemplate.Proofs.Pattern.Opening
import PatternTemplate.Proofs.Pattern.Agreement
import PatternTemplate.Proofs.Pattern.Progress
