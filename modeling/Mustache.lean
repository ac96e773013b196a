import Mustache.Disk.Tree
import Mustache.Main
import Mustache.Outline
import Mustache.Proofs.Draft
import Mustache.Proofs.Rendering
import Mustache.Proofs.RoundTrip
import Mustache.Proofs.Subtree
import Mustache.Proofs.Walk
import Mustache.Proofs.Walk.Rendering
import Mustache.Proofs.Mediation
import Mustache.Proofs.Depth
import Mustache.Proofs.Markup
import Mustache.Proofs.Limits
import Mustache.Proofs.Failure
import Mustache.Proofs.Token.Place
import Mustache.Proofs.Matching
import Mustache.Proofs.Likeness
import Mustache.Proofs.Inlining
import Mustache.Proofs.Essence
import Mustache.Proofs.Encoding
import Mustache.Proofs.Web.Status
import Mustache.Proofs.Concatenation
import Mustache.Proofs.KeyOrder
import Mustache.Proofs.Written
import Mustache.Proofs.Location
import Mustache.Proofs.Arrangement
import Mustache.Proofs.InForce
import Mustache.Proofs.Extent
import Mustache.Proofs.Token.Lookahead
import Mustache.Proofs.Token.Run
import Mustache.Proofs.OpenSections
import Mustache.Proofs.Fault.Offence
import Mustache.Proofs.Fault.Location
import Mustache.Proofs.Fault.Lasting
import Mustache.Proofs.Appending
import Mustache.Proofs.Entities
import Mustache.Proofs.Text.Pieces
import Mustache.Proofs.Path
import Mustache.Proofs.Web.Confinement
import Mustache.Proofs.Pragmas
import Mustache.Proofs.Calls
import Mustache.Proofs.Web.ContentType
import Mustache.Proofs.Walk.Enclosure
import Mustache.Proofs.Iteration
import Mustache.Proofs.Entries
import Mustache.Proofs.Text.Utf8
import Mustache.Proofs.Web.Query
import Mustache.Proofs.Neighbours
import Mustache.Proofs.Path.Ending
import Mustache.Proofs.Disk.Tree
import Mustache.Proofs.Reach
import Mustache.Proofs.Check
import Mustache.Proofs.Scanner.Calls
import Mustache.Proofs.Parser
import Mustache.Proofs.Arena.Shape
