import Descent.Calculator
import Descent.Config
import Descent.Proofs.Calculator.EarliestError
import Descent.Proofs.Calculator.Expansion
import Descent.Proofs.Calculator.Insertion
import Descent.Proofs.Calculator.Isolation
import Descent.Proofs.Calculator.Printing
import Descent.Proofs.Calculator.Safety
import Descent.Proofs.Calculator.Spans
import Descent.Proofs.Calculator.Termination
import Descent.Proofs.Config.Rendering
import Descent.Proofs.Config.RoundTrip
import Descent.Proofs.Diagnostic.Offset
import Descent.Proofs.Lexer.Actions
import Descent.Proofs.Lexer.Extension
import Descent.Proofs.Lexer.Restart
import Descent.Proofs.Lexer.Selection
import Descent.Proofs.Lexicon.Building
import Descent.Proofs.Order.Binary64
import Descent.Proofs.Parser.Diagnostics
import Descent.Proofs.Parser.Draining
import Descent.Proofs.Parser.Refinement
import Descent.Proofs.Parser.Splicing
import Descent.Proofs.Parser.Trace
import Descent.Proofs.Token.Comparison
import Descent.Script
import Descent.Text.Buffer
