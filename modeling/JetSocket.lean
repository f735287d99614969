import JetSocket.Core.Mask
import JetSocket.Lib.IncrementalParse
import JetSocket.Core.Frame
import JetSocket.Core.FrameParser
import JetSocket.Core.Codec
import JetSocket.Exceptions
import JetSocket.Lib.Event
import JetSocket.Lib.Transition
import JetSocket.Transport.Protocol
import JetSocket.Transport.AsyncTransport
import JetSocket.Transport.Delivery
import JetSocket.Backoff
import JetSocket.Heartbeat
import JetSocket.Lib.TaskPool
import JetSocket.Manager.Attempt
import JetSocket.Manager.FinalClose
import JetSocket.Manager.Fragments
import JetSocket.Buffer.RingBuffer
import JetSocket.Manager.HttpStatus
import JetSocket.Manager.ClosedOnce
import JetSocket.Manager.Handlers
import JetSocket.Manager.Accounting
import JetSocket.Manager.InfiniteRetry
import JetSocket.Manager.Loss
import JetSocket.Manager.Run
import JetSocket.Manager.Consumers
import JetSocket.Buffer.MessageBuffer
import JetSocket.Manager.Replay
import JetSocket.Manager.Ledger
import JetSocket.Core.Violation
import JetSocket.Transport.SendOrder
import JetSocket.Transport.CloseLast
import JetSocket.Transport.Contexts
import JetSocket.Transport.MessageSize
import JetSocket.Transport.CloseFrames
import JetSocket.Transport.Boundary
import JetSocket.Transport.SyncDelivery
import JetSocket.Routing.Faithful
import JetSocket.Routing.Router
import JetSocket.Pooling.Loops
import JetSocket.Pooling.Orphans
import JetSocket.Pooling.Counts
import JetSocket.Core.ParserBuffer
import JetSocket.Transport.Rsv1
import JetSocket.Transport.HandshakeSound
import JetSocket.Manager.MessageLoop
import JetSocket.Routing.Subscribing
import JetSocket.Routing.Relay
import JetSocket.Lib.InsertionOrder
import JetSocket.SyncClient.Handlers
import JetSocket.SyncClient.Consumers
import JetSocket.Backoff.Schedule
import JetSocket.Buffer.DedupWindow
import JetSocket.Buffer.Draining
import JetSocket.Transport.Addresses
import JetSocket.Events.Emission
import JetSocket.Transport.UriRoundTrip
import JetSocket.Transport.Backpressure
import JetSocket.Transport.Reuse
import JetSocket.Heartbeat.Cycle
import JetSocket.Heartbeat.DeadPeer
import JetSocket.Transport.DeflateParams
import JetSocket.SyncClient.Forwarding
import JetSocket.SyncClient.Iteration
import JetSocket.Transport.Outbound
import JetSocket.Transport.SyncOutbound
import JetSocket.Manager.Intake
import JetSocket.Manager.Inbound
import JetSocket.Manager.Lifetime
import JetSocket.Manager.Messenger
import JetSocket.Manager.Announcements
import JetSocket.Transport.Agreement
import JetSocket.Manager.Messenger
