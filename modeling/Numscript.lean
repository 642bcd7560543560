import Numscript.Program
import Numscript.Language
import Numscript.Tree.Outline
import Numscript.Tree.Expression
import Numscript.Tree.Position
import Numscript.Trace.Log
import Numscript.Session
import Numscript.Highlight
import Numscript.Query.Reader
import Numscript.NodeType.Table
import Numscript.Parser.Machine
import Numscript.NodeType.Conformance
import Numscript.Grammar.Canonical
import Numscript.Regular.Lemmas
import Numscript.Proofs.Soundness
import Numscript.Proofs.Automaton.Pairs
import Numscript.Proofs.Parser.Branch
import Numscript.Proofs.Parser.Reconverge
import Numscript.Proofs.Parser.Termination
import Numscript.Proofs.Tiling
import Numscript.Proofs.Layout
import Numscript.Proofs.Lexer.Findable
import Numscript.Proofs.Lexer.Literal
import Numscript.Proofs.Lexer.Maximal
import Numscript.Proofs.Automaton.Walk
import Numscript.Proofs.Keywords
import Numscript.Proofs.Comments
import Numscript.Proofs.Conformance
import Numscript.Proofs.Printing
import Numscript.Proofs.Characters
import Numscript.Proofs.Precedence
import Numscript.Proofs.Destinations
import Numscript.Proofs.Concatenation
import Numscript.Proofs.Fallback
import Numscript.Proofs.Replay
import Numscript.Proofs.Highlighting
import Numscript.Proofs.Placement
import Numscript.Proofs.Continuation
import Numscript.Proofs.Prefix
import Numscript.Proofs.Expression
import Numscript.Proofs.Navigation
