/-
Frames: envelopes as text or bytes.

An envelope is sent as JSON text or as MessagePack bytes. A frame says
of itself which of the two it is, so reading needs no format.
-/
import DeviceTwin.Envelope.Basic
import DeviceTwin.Json.Reader
import DeviceTwin.Json.Writer
import DeviceTwin.MsgPack.Reader
import DeviceTwin.MsgPack.Writer

namespace DeviceTwin

/-- How envelopes are written. -/
inductive WireFormat where
  | json
  | msgpack
  deriving DecidableEq

/-- What is sent in one piece. -/
inductive Frame where
  | text (s : String)
  | binary (bytes : List UInt8)
  deriving DecidableEq

namespace WireFormat

/-- The name of a format. -/
def name : WireFormat → String
  | json => "json"
  | msgpack => "msgpack"

/-- The format of this name. -/
def ofName? : String → Option WireFormat
  | "json" => some json
  | "msgpack" => some msgpack
  | _ => none

/-- The frame of an envelope. -/
def encode : WireFormat → Envelope → Frame
  | json, e => .text (Json.text e.record)
  | msgpack, e => .binary (MsgPack.write e.record)

end WireFormat

namespace Frame

/-- The number of bytes. -/
def size : Frame → Nat
  | text s => s.utf8ByteSize
  | binary bytes => bytes.length

/-- The envelope in a frame. -/
def decode : Frame → Except ProtocolError Envelope
  | text s => (Json.decode (Envelope.decode .text 0) s).mapError .codec
  | binary bytes => (MsgPack.decode (Envelope.decode .binary 0) bytes).mapError .codec

/-- The signal in a frame. -/
def toSignal (f : Frame) : Except ProtocolError Signal := f.decode >>= Envelope.toSignal

end Frame

end DeviceTwin
