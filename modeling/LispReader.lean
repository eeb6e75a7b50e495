import LispReader.Main
import LispReader.Pattern.Compile
import LispReader.Pattern.Match
import LispReader.Proofs.Position
import LispReader.Proofs.Scanning.Run
import LispReader.Proofs.Scanning.Token
import LispReader.Proofs.Scanning.Layout
import LispReader.Proofs.Building.Descent
import LispReader.Proofs.Lines
import LispReader.Proofs.Name
import LispReader.Proofs.Node.WellFormed
import LispReader.Proofs.Printing.RoundTrip
import LispReader.Proofs.Printing.FixedPoint
import LispReader.Proofs.Building.Nesting
import LispReader.Proofs.Building.Fault
import LispReader.Proofs.Closers
import LispReader.Proofs.Scanning.Continuation
import LispReader.Proofs.Relocation
import LispReader.Proofs.Building.Sequel
import LispReader.Proofs.Joining
import LispReader.Proofs.Session.Program
import LispReader.Proofs.Session.Refusal
import LispReader.Proofs.Session.Division
import LispReader.Proofs.Building.Enclosed
import LispReader.Proofs.Building.Function
import LispReader.Proofs.Scanning.Failure
import LispReader.Proofs.Blame
import LispReader.Proofs.Node.Leaves
import LispReader.Proofs.Building.CommentPlaces
import LispReader.Proofs.Building.Contribution
import LispReader.Proofs.Completion
import LispReader.Proofs.Trimming.Building
import LispReader.Proofs.Trimming.Session
import LispReader.Proofs.Persistence
import LispReader.Proofs.Command
import LispReader.Proofs.Json
import LispReader.Proofs.Decimal
import LispReader.Proofs.Printing.Json
import LispReader.Proofs.Spelling
import LispReader.Proofs.Building.Pairing
import LispReader.Proofs.Enclosing
import LispReader.Proofs.LineEndings
import LispReader.Proofs.Spacing
import LispReader.Proofs.Word
import LispReader.Proofs.Building.Signs
import LispReader.Proofs.Log
import LispReader.Proofs.Listing
import LispReader.Proofs.Session.Prompts
import LispReader.Proofs.Building.Waiting
import LispReader.Proofs.Building.Scopes
