/-
The client: calls, changes and the way in for frames.

Frames that arrive wait in a bounded inbox. The pump takes them out one
by one. A text that cannot be an envelope is a remark of the connection
and is passed over; every other frame goes first to the call that waits
for it. What no call waits for is a change for the handlers, or a signal
for the application, which listens for them in order of arrival. A frame
that cannot be read changes nothing.

`now` is the clock of the client; it moves by `advance` alone, and what
is due then happens then.
-/
import DeviceTwin.Client.AckRequest
import DeviceTwin.Client.LiveCommand
import DeviceTwin.Client.Registry
import DeviceTwin.Text.Blank

namespace DeviceTwin

/-- What became of a frame that was offered to the inbox. -/
inductive Offer where
  | sent
  | full
  | closed
  deriving DecidableEq

/-- What became of it in a word. -/
def Offer.name : Offer → String
  | sent => "sent"
  | full => "full"
  | closed => "closed"

/-- What became of a frame that the pump took out. -/
inductive Routed (η : Type) where
  /-- It was a remark of the connection. -/
  | remark
  /-- A call waited for it. -/
  | answered
  /-- It held an event; these handlers are called. -/
  | event (deliveries : List (Delivery η))
  /-- It held a signal that nobody waited for. -/
  | unmatched (s : Signal)
  /-- It could not be read. -/
  | unreadable (e : ProtocolError)

/-- The state of a client whose handlers are of a type. -/
structure Client (η : Type) where
  config : Config
  now : Nat := 0
  dispatcher : Dispatcher
  registry : Registry η := {}
  /-- Frames that arrived and were not taken out. -/
  inbox : List Frame := []
  /-- Whether frames can still arrive. -/
  inboxOpen : Bool := true
  /-- Whether the pump was not stopped. -/
  pumpStarted : Bool := true
  /-- Signals that arrived and nobody waited for. -/
  unmatched : List Signal := []
  /-- Whether the application listens for them. -/
  listening : Bool := true

/-- Whether the pump takes a frame for a remark of the connection. -/
def Frame.isRemark : Frame → Bool
  | .text s => (Text.trimStart s.toList).head? != some '\x7b'
  | .binary _ => false

namespace Client

variable {η : Type}

/-- A client at its start. -/
def start (config : Config) : Client η := { config, dispatcher := .ofConfig config }

/-- The client after an operation on its calls at the present time. -/
def act (c : Client η) (operation : Dispatcher → Nat → Dispatcher) : Client η :=
  { c with dispatcher := operation c.dispatcher c.now }

/-- Moves the clock, and lets happen what is due. -/
def advance (c : Client η) (nanos : Nat) : Client η :=
  { c with now := c.now + nanos }.act .settle

-- ===================================================================== calls

/-- Takes a frame in outside the inbox: the signal in it, unless a call waited for it. -/
def takeIn (c : Client η) (f : Frame) : Client η × Except ProtocolError (Option Signal) :=
  let (dispatcher, taken) := c.dispatcher.inbound c.now f
  ({ c with dispatcher }, taken)

/-- Offers a frame that leaves, without waiting: whether it was accepted. -/
def trySend (c : Client η) (f : Frame) : Client η × Bool :=
  let (dispatcher, sent) := c.dispatcher.trySend f
  ({ c with dispatcher }, sent)

/-- Receives up to `n` accepted frames at the other end. -/
def receive (c : Client η) (n : Nat) : Client η × List Frame :=
  let (dispatcher, frames) := c.dispatcher.receive c.now n
  ({ c with dispatcher }, frames)

-- ================================================================== handlers

/-- Registers a handler, for one entity or for all: its identifier. -/
def register (c : Client η) (entity : Option EntityId) (handler : η) : Client η × Nat :=
  let (registry, id) := c.registry.register entity handler
  ({ c with registry }, id)

/-- Takes a registration out: whether it was there. -/
def deregister (c : Client η) (id : Nat) : Client η × Bool :=
  let (registry, removed) := c.registry.deregister id
  ({ c with registry }, removed)

-- ===================================================================== inbox

/-- Whether the pump runs: until it is stopped, or no frame is left and
none can arrive. -/
def isPumping (c : Client η) : Bool := c.pumpStarted && (c.inboxOpen || !c.inbox.isEmpty)

/-- Offers a frame to the inbox. -/
def offer (c : Client η) (f : Frame) : Client η × Offer :=
  if !(c.inboxOpen && c.pumpStarted) then (c, .closed)
  else if c.inbox.length < c.config.inboundCapacity then
    ({ c with inbox := c.inbox ++ [f] }, .sent)
  else (c, .full)

/-- No frame arrives any more. -/
def closeInbox (c : Client η) : Client η := { c with inboxOpen := false }

/-- Stops the pump; what is in the inbox is lost. -/
def stopPump (c : Client η) : Client η := { c with pumpStarted := false, inbox := [] }

/-- The application stops listening. -/
def stopListening (c : Client η) : Client η := { c with listening := false, unmatched := [] }

-- =================================================================== routing

/-- Gives a signal to the application, if it listens. -/
def forward (c : Client η) (s : Signal) : Client η :=
  if c.listening then { c with unmatched := c.unmatched ++ [s] } else c

/-- Routes a frame. -/
def route (c : Client η) (f : Frame) : Client η × Routed η :=
  if f.isRemark then (c, .remark)
  else
    let (c, taken) := c.takeIn f
    match taken with
    | .ok none => (c, .answered)
    | .ok (some (.event e)) => (c, .event (c.registry.deliveries e))
    | .ok (some s) => (c.forward s, .unmatched s)
    | .error e => (c, .unreadable e)

/-- Takes the next frame out of the inbox and routes it. -/
def pump (c : Client η) : Option (Client η × Routed η) :=
  match c.inbox with
  | [] => none
  | f :: rest => some ({ c with inbox := rest }.route f)

-- ================================================================== the news

/-- What the application takes: the calls that ended and the signals that
nobody waited for. -/
def collect (c : Client η) : Client η × List (Nat × CallResult) × List Signal :=
  ({ c with dispatcher := { c.dispatcher with finished := [] }, unmatched := [] },
    c.dispatcher.finished, c.unmatched)

/-- Stops the pump and ends every request. -/
def shutdown (c : Client η) : Client η := c.stopPump.act .shutdown

end Client

end DeviceTwin
