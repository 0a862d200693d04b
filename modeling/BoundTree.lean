import BoundTree.EqualityClasses
import BoundTree.Feed
import BoundTree.Json.Constant
import BoundTree.Json.Kind
import BoundTree.Json.Span
import BoundTree.Operation.Build
import BoundTree.Operation.Dump
import BoundTree.Operation.Walk
import BoundTree.Proofs.Assembly
import BoundTree.Proofs.ConstantText
import BoundTree.Proofs.DecimalScale
import BoundTree.Proofs.DecimalText
import BoundTree.Proofs.Dump.Faithful
import BoundTree.Proofs.Dump.LineByLine
import BoundTree.Proofs.Dump.Printed
import BoundTree.Proofs.Dump.Sealed
import BoundTree.Proofs.Dump.WrittenForms
import BoundTree.Proofs.EnvelopeLaw
import BoundTree.Proofs.InitializerChain
import BoundTree.Proofs.Json.AcceptedForms
import BoundTree.Proofs.Json.RoundTrip
import BoundTree.Proofs.Json.Tokens
import BoundTree.Proofs.Json.Values
import BoundTree.Proofs.NameRuns
import BoundTree.Proofs.Provenance
import BoundTree.Proofs.Quoted
import BoundTree.Proofs.Rebuild
import BoundTree.Proofs.SafeQuoting
import BoundTree.Proofs.SessionTables
import BoundTree.Proofs.Traversal
import BoundTree.Proofs.TypeText
import BoundTree.Session
import BoundTree.Proofs.ExpectedShapes
import BoundTree.Proofs.UnambiguousFeeds
import BoundTree.Proofs.LawfulEquality
