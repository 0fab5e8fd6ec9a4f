import Stepwise.Cli.FileTree
import Stepwise.Cli.Options
import Stepwise.Cli.Report
import Stepwise.Grammar.Declaration
import Stepwise.Grammar.Expression
import Stepwise.Grammar.Extent
import Stepwise.Grammar.Fault
import Stepwise.Grammar.Loading
import Stepwise.Grammar.Statement
import Stepwise.Header
import Stepwise.Location
import Stepwise.Machine.Arithmetic
import Stepwise.Machine.Eval
import Stepwise.Machine.Event
import Stepwise.Machine.Fault
import Stepwise.Machine.Limits
import Stepwise.Machine.Runner
import Stepwise.Machine.State
import Stepwise.Main
import Stepwise.Output
import Stepwise.Pool
import Stepwise.Proofs.Actions
import Stepwise.Proofs.Activity
import Stepwise.Proofs.Bracketing
import Stepwise.Proofs.Ceilings
import Stepwise.Proofs.Discipline
import Stepwise.Proofs.ExpressionReading
import Stepwise.Proofs.ExpressionWriting
import Stepwise.Proofs.StatementExtent
import Stepwise.Proofs.StatementReading
import Stepwise.Proofs.StatementWriting
import Stepwise.Proofs.Unplaced
import Stepwise.Screen
import Stepwise.Screen.Area
import Stepwise.Screen.Glyph
import Stepwise.Screen.Item
import Stepwise.Screen.Style
import Stepwise.Session
import Stepwise.Store
import Stepwise.Store.Slot
import Stepwise.Syntax.Node
import Stepwise.Syntax.Operator
import Stepwise.Syntax.Outline
import Stepwise.Syntax.Program
import Stepwise.Text.Blank
import Stepwise.Text.BreakClass
import Stepwise.Text.Cluster
import Stepwise.Text.CodeRange
import Stepwise.Text.Emoji
import Stepwise.Text.Extender
import Stepwise.Text.Joining
import Stepwise.Text.Lines
import Stepwise.Text.Numeral
import Stepwise.Text.Printable
import Stepwise.Text.Quoted
import Stepwise.Text.Utf8
import Stepwise.Text.Wide
import Stepwise.Text.Width
import Stepwise.Text.ZeroWidth
import Stepwise.Token
import Stepwise.Token.Lexer
import Stepwise.Token.Opening
import Stepwise.Trace
import Stepwise.Viewer
import Stepwise.Viewer.Highlight
import Stepwise.Viewer.Key
import Stepwise.Viewer.Pane
import Stepwise.Viewer.Scroll
import Stepwise.Viewer.Theme
import Stepwise.Proofs.Relabeling
import Stepwise.Proofs.ScopeDiscipline
import Stepwise.Proofs.Simulation
import Stepwise.Proofs.Termination
import Stepwise.Proofs.Refusal
import Stepwise.Proofs.Tracing
import Stepwise.Proofs.Relocation
import Stepwise.Proofs.Layout
import Stepwise.Proofs.Course
import Stepwise.Proofs.Recording
import Stepwise.Proofs.Comparison
import Stepwise.Proofs.Delivery
import Stepwise.Proofs.Places
import Stepwise.Proofs.RenamedStore
import Stepwise.Proofs.Renaming
import Stepwise.Proofs.CallDepth
import Stepwise.Proofs.Inventory
import Stepwise.Proofs.ReadingOn
import Stepwise.Proofs.Extension
import Stepwise.Proofs.Nesting
import Stepwise.Proofs.Adjacency
import Stepwise.Proofs.StatementDivision
import Stepwise.Proofs.Lexemes
import Stepwise.Proofs.Spacing
import Stepwise.Proofs.Joining
import Stepwise.Proofs.Positions
import Stepwise.Proofs.InBounds
import Stepwise.Proofs.ScopeTree
import Stepwise.Proofs.Decimals
import Stepwise.Proofs.SlotLaws
import Stepwise.Proofs.Openings
import Stepwise.Proofs.Headers
import Stepwise.Proofs.CallEntry
import Stepwise.Proofs.ForLoops
import Stepwise.Proofs.Wraparound
import Stepwise.Proofs.Declarators
import Stepwise.Proofs.Reruns
import Stepwise.Proofs.HeaderFaults
import Stepwise.Proofs.Navigation
import Stepwise.Proofs.SourceView
import Stepwise.Proofs.Highlighting
