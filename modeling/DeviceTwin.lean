import DeviceTwin.Text.Blank
import DeviceTwin.Text.Split
import DeviceTwin.Text.Quoted
import DeviceTwin.Text.Duration
import DeviceTwin.Number.Shortest
import DeviceTwin.Number.Literal
import DeviceTwin.Keyed
import DeviceTwin.Value
import DeviceTwin.EntityId
import DeviceTwin.Pointer
import DeviceTwin.Status
import DeviceTwin.Headers
import DeviceTwin.SignalType
import DeviceTwin.DecodeError
import DeviceTwin.Outline
import DeviceTwin.Outline.Decode
import DeviceTwin.Json.Writer
import DeviceTwin.Json.Reader
import DeviceTwin.MsgPack.Writer
import DeviceTwin.MsgPack.Reader
import DeviceTwin.Timestamp
import DeviceTwin.Acknowledgement
import DeviceTwin.Signal
import DeviceTwin.ProtocolError
import DeviceTwin.Frame
import DeviceTwin.RequestedAcks
import DeviceTwin.Outgoing
import DeviceTwin.Resolution
import DeviceTwin.Change
import DeviceTwin.ProtocolCommand
import DeviceTwin.Client.Dispatcher
import DeviceTwin.Client.Basic
import DeviceTwin.Client.Rounds
import DeviceTwin.Client.Senders
import DeviceTwin.Proofs.Correlator.Message
import DeviceTwin.Proofs.Correlator.Stale
import DeviceTwin.Proofs.Correlator.Commute
import DeviceTwin.Proofs.Correlator.Deadline
import DeviceTwin.Proofs.Dispatcher.Acceptance
import DeviceTwin.Proofs.Dispatcher.LiveReply
import DeviceTwin.Proofs.Dispatcher.Trusted
import DeviceTwin.Proofs.Dispatcher.Acknowledge
import DeviceTwin.Proofs.Dispatcher.Channel
import DeviceTwin.Proofs.Dispatcher.Preparation
import DeviceTwin.Proofs.AckRequest
import DeviceTwin.Proofs.Client.Pump
import DeviceTwin.Proofs.Client.Shutdown
import DeviceTwin.Proofs.Client.Remark
import DeviceTwin.Proofs.Client.Unclaimed
import DeviceTwin.Proofs.Address
import DeviceTwin.Proofs.EntityId
import DeviceTwin.Proofs.Pointer
import DeviceTwin.Proofs.Addressee
import DeviceTwin.Proofs.Topic
import DeviceTwin.Proofs.ResponseType
import DeviceTwin.Proofs.Routing
import DeviceTwin.Proofs.ProtocolCommand
import DeviceTwin.Proofs.Rounds
import DeviceTwin.Proofs.Outbox.Operations
import DeviceTwin.Proofs.Except
import DeviceTwin.Proofs.Keyed
import DeviceTwin.Proofs.Resolution
import DeviceTwin.Proofs.Interpretation
import DeviceTwin.Proofs.Outline.Value
import DeviceTwin.Proofs.Outline.Field
import DeviceTwin.Proofs.Envelope.Record
import DeviceTwin.Proofs.Envelope.Signal
import DeviceTwin.Proofs.Envelope.Received
import DeviceTwin.Proofs.Envelope.Content
import DeviceTwin.Proofs.Envelope.Grammar
import DeviceTwin.Proofs.Envelope.Wire
import DeviceTwin.Proofs.Json.Value
import DeviceTwin.Proofs.Json.TextList
import DeviceTwin.Proofs.MsgPack
import DeviceTwin.Proofs.Frame
import DeviceTwin.Proofs.Frame.RoundTrip
import DeviceTwin.Proofs.Outbox.Turns
import DeviceTwin.Proofs.Pointer
