import SourceScan.Display
import SourceScan.Session
import SourceScan.Proofs.Comment.Closer
import SourceScan.Proofs.Comment.DeadPairs
import SourceScan.Proofs.Comment.Flavour
import SourceScan.Proofs.Comment.Indentation
import SourceScan.Proofs.Comment.Interior
import SourceScan.Proofs.Comment.Layout
import SourceScan.Proofs.Comment.LooseMarkers
import SourceScan.Proofs.Comment.Opening
import SourceScan.Proofs.Comment.Precedence
import SourceScan.Proofs.CommentStyle.Description
import SourceScan.Proofs.Cursor.Closing
import SourceScan.Proofs.Cursor.Moves
import SourceScan.Proofs.Cursor.Outside
import SourceScan.Proofs.Cursor.Search
import SourceScan.Proofs.Cursor.Sequence
import SourceScan.Proofs.Lexer.Declaration
import SourceScan.Proofs.Lexer.Delivery
import SourceScan.Proofs.Lexer.Flavour
import SourceScan.Proofs.Lexer.Indentation
import SourceScan.Proofs.Lexer.Interior
import SourceScan.Proofs.Lexer.Locality
import SourceScan.Proofs.Lexer.Passes
import SourceScan.Proofs.Lexer.Placement
import SourceScan.Proofs.Lexer.Refusal
import SourceScan.Proofs.Lexer.Rows
import SourceScan.Proofs.Lexer.Runs
import SourceScan.Proofs.Lexer.Spelling
import SourceScan.Proofs.Lexer.Steps
import SourceScan.Proofs.Parser.History
import SourceScan.Proofs.Parser.LineEdges
import SourceScan.Proofs.Parser.Terminators
import SourceScan.Proofs.Scope.History
import SourceScan.Proofs.Scope.Imports
import SourceScan.Proofs.Scope.Level
import SourceScan.Proofs.Settings.Contexts
import SourceScan.Proofs.Token.Division
