import CompanionBus.Bytes.LittleEndian
import CompanionBus.Text.Hex
import CompanionBus.Text.Utf8
import CompanionBus.Text.Blank
import CompanionBus.Text.Decimal
import CompanionBus.Limits
import CompanionBus.Checksum
import CompanionBus.ErrorKind
import CompanionBus.Status
import CompanionBus.Command
import CompanionBus.Method
import CompanionBus.Flags
import CompanionBus.Clock.Calendar
import CompanionBus.Clock.Civil
import CompanionBus.Clock.DateTimes
import CompanionBus.Clock.Time
import CompanionBus.Clock.Proleptic
import CompanionBus.Clock.Format
import CompanionBus.Clock.Formatted
import CompanionBus.Error.Value
import CompanionBus.Error.Protocol
import CompanionBus.Error.Link
import CompanionBus.Error.Client
import CompanionBus.Slip
import CompanionBus.Slip.Accumulator
import CompanionBus.Packet.Field
import CompanionBus.Packet.Descriptor
import CompanionBus.Packet
import CompanionBus.Packet.Printer
import CompanionBus.Request
import CompanionBus.Response
import CompanionBus.Session.Info
import CompanionBus.Session
import CompanionBus.Session.Table
import CompanionBus.Link
import CompanionBus.Link.Script
import CompanionBus.Link.Unplugged
import CompanionBus.Link.Endpoint
import CompanionBus.Link.Recorded
import CompanionBus.Link.Schedule
import CompanionBus.Link.Buffered
import CompanionBus.Link.Channel
import CompanionBus.Exchange
import CompanionBus.Operation
import CompanionBus.Device
import CompanionBus.Proofs.Checksum.FoldedSum
import CompanionBus.Proofs.Checksum.Detection
import CompanionBus.Proofs.Packet.RoundTrip
import CompanionBus.Proofs.Packet.Grammar
import CompanionBus.Proofs.Slip.RoundTrip
import CompanionBus.Proofs.Slip.Place
import CompanionBus.Proofs.Slip.Unwrapping
import CompanionBus.Proofs.Slip.Bijection
import CompanionBus.Proofs.Slip.Stream
import CompanionBus.Proofs.Slip.Reference
import CompanionBus.Proofs.Slip.Delimited
import CompanionBus.Proofs.Slip.Invariant
import CompanionBus.Proofs.Slip.WordLimit
import CompanionBus.Proofs.Slip.Damage
import CompanionBus.Proofs.Packet.Damage
import CompanionBus.Proofs.Request.Limits
import CompanionBus.Proofs.Request.Layout
import CompanionBus.Proofs.Request.Frames
import CompanionBus.Proofs.Response.Layout
import CompanionBus.Proofs.Response.Answers
import CompanionBus.Proofs.Exchange.Await
import CompanionBus.Proofs.Exchange.Delivery
import CompanionBus.Proofs.Exchange.Course
import CompanionBus.Proofs.Exchange.Sent
import CompanionBus.Proofs.Exchange.Corruption
import CompanionBus.Proofs.Exchange.Deadline
import CompanionBus.Proofs.Exchange.Errors
import CompanionBus.Proofs.Exchange.Replies
import CompanionBus.Proofs.Exchange.LateReply
import CompanionBus.Proofs.Exchange.Received
import CompanionBus.Proofs.Session.Kind
import CompanionBus.Proofs.Session.Slots
import CompanionBus.Proofs.Session.Operations
import CompanionBus.Proofs.Session.Refinement
import CompanionBus.Proofs.Device.Events
import CompanionBus.Proofs.Operation.Settling
import CompanionBus.Proofs.Operation.Recording
import CompanionBus.Proofs.Device.History
import CompanionBus.Proofs.Device.Atomic
import CompanionBus.Proofs.Device.Checks
import CompanionBus.Proofs.Device.Stale
import CompanionBus.Proofs.Device.Readiness
import CompanionBus.Proofs.Device.Reading
import CompanionBus.Proofs.Device.Chunk
import CompanionBus.Proofs.Clock.Calendar
import CompanionBus.Proofs.Clock.Display
import CompanionBus.Proofs.Packet.Canonical
import CompanionBus.Proofs.Exchange.Endings
import CompanionBus.Proofs.Exchange.Causes
import CompanionBus.Proofs.Exchange.FrameRoom
import CompanionBus.Proofs.Exchange.EmptyFrame
import CompanionBus.Proofs.Device.Causes
