import Scriptlet.Main
import Scriptlet.Parser.Session
import Scriptlet.Proofs.Parser.Reads
import Scriptlet.Token.Session
import Scriptlet.Proofs.Parser.Steps
import Scriptlet.Proofs.Grammar.Productions
import Scriptlet.Proofs.Grammar.Precedence
import Scriptlet.Proofs.Grammar.Opening
import Scriptlet.Proofs.Parser.Expression
import Scriptlet.Proofs.Parser.Item
import Scriptlet.Proofs.Parser.Recovery
import Scriptlet.Proofs.Parser.Acceptance
import Scriptlet.Proofs.Parser.Lexical
import Scriptlet.Proofs.Parser.Limit
import Scriptlet.Proofs.Parser.Concatenation
import Scriptlet.Proofs.Parser.Layout
import Scriptlet.Proofs.Parser.Chain
import Scriptlet.Proofs.Parser.Sinking
import Scriptlet.Proofs.Parser.Fence
import Scriptlet.Proofs.Parser.Order
import Scriptlet.Proofs.Parser.Blame
import Scriptlet.Proofs.Token.Trivia
import Scriptlet.Proofs.Token.Adjacent
import Scriptlet.Proofs.Writing.RoundTrip
import Scriptlet.Proofs.Token.Session
import Scriptlet.Proofs.Parser.Blanking
import Scriptlet.Proofs.Run.Warnings
import Scriptlet.Proofs.Run.Listing
import Scriptlet.Proofs.Token.Literal
import Scriptlet.Proofs.Parser.Depth
import Scriptlet.Proofs.Parser.Height
import Scriptlet.Proofs.Parser.Budget
import Scriptlet.Proofs.Parser.Progress
import Scriptlet.Proofs.Parser.Reachable
import Scriptlet.Proofs.Parser.Leaves
