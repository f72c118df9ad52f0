import EventFlow.Host.Lifetime
import EventFlow.Proofs.Edit.Shape
import EventFlow.Service.Basic
import EventFlow.Proofs.Edit.History
import EventFlow.Proofs.Run.Step
import EventFlow.Proofs.Run.Walk
import EventFlow.Proofs.Traverse
import EventFlow.Proofs.Run.DataFlow
import EventFlow.Proofs.Text.Numeral
import EventFlow.Proofs.Json.RoundTrip
import EventFlow.Proofs.Flow.Listing
import EventFlow.Proofs.Document.Entries
import EventFlow.Proofs.Document.RoundTrip
import EventFlow.Proofs.Number.Bits
import EventFlow.Proofs.Number.Notation
import EventFlow.Proofs.Value.Wire
import EventFlow.Proofs.Json.Limits
import EventFlow.Proofs.Document.Loading
import EventFlow.Proofs.Document.Stability
import EventFlow.Proofs.Run.Course
import EventFlow.Proofs.Edit.Regular
import EventFlow.Proofs.Edit.Fresh
import EventFlow.Proofs.Files.Saving
import EventFlow.Proofs.Host.Directory
import EventFlow.Proofs.Run.Effects
import EventFlow.Proofs.Run.Limit
import EventFlow.Proofs.Flow.Path
import EventFlow.Proofs.Run.Path
import EventFlow.Proofs.Flow.Copy
import EventFlow.Proofs.Run.Locality
import EventFlow.Proofs.Edit.Upkeep
import EventFlow.Proofs.Run.Checked
import EventFlow.Proofs.Run.Safety
import EventFlow.Proofs.Edit.Atomic
import EventFlow.Proofs.Host.Order
import EventFlow.Proofs.Host.Gate
import EventFlow.Proofs.Host.Dispatch
import EventFlow.Proofs.Files.Replacing
import EventFlow.Proofs.Text.Utf8
import EventFlow.Proofs.Edit.Ready
import EventFlow.Proofs.Service.Address
import EventFlow.Proofs.Service.Session
import EventFlow.Proofs.Service.Answer
import EventFlow.Proofs.Service.Routing
import EventFlow.Proofs.Service.Retained
import EventFlow.Proofs.Service.Listed
import EventFlow.Proofs.Service.Answered
import EventFlow.Proofs.Flow.Preorder
import EventFlow.Proofs.Edit.Applied
import EventFlow.Proofs.Files.Creating
import EventFlow.Proofs.Files.Alike
import EventFlow.Proofs.Files.Confined
import EventFlow.Proofs.Service.Confined
import EventFlow.Proofs.Value.Canonical
import EventFlow.Proofs.Number.Grammar
import EventFlow.Proofs.Value.Readings
import EventFlow.Run.Again
import EventFlow.Proofs.Run.Again
import EventFlow.Proofs.Edit.Frame
import EventFlow.Proofs.Operator.Dispatch
import EventFlow.Proofs.Countdown.Run
import EventFlow.Proofs.Files.Loading
