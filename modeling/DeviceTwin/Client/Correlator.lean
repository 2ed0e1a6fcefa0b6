/-
The table of replies that somebody waits for.

A subscription waits for one message under a key. It gets a number that
no other subscription has, an entry in the table, an armed timer and a
reply, which its owner holds. The entry ends in one of four ways: a
message under its key is published, its timer fires, its owner gives it
up, or the table is closed. Whoever takes the entry out settles the
reply, and nobody else can: a timer and an owner compare numbers before
they take the entry under their key, so what is left over of an old
subscription never touches a newer one under the same key.

The four parts of the state (entries, timers, replies, counter) are kept
apart, and each operation says what it does to each of them.
-/
import DeviceTwin.Client.Span

namespace DeviceTwin

-- ===================================================================== parts

/-- Why a subscription has no message. -/
inductive ReplyError where
  | timeout (key : String) (span : Span)
  | alreadyPending (key : String)
  | closed
  deriving DecidableEq

/-- The error in words. -/
def ReplyError.message : ReplyError → String
  | timeout key span => "no message for '" ++ key ++ "' within " ++ span.text
  | alreadyPending key => "a subscription for '" ++ key ++ "' is already pending"
  | closed => "correlation bus closed"

/-- How a subscription ended. -/
abbrev Outcome (μ : Type) := Except ReplyError μ

namespace Correlator

/-- A subscription in the table. -/
structure Entry where
  number : Nat
  key : String
  deriving DecidableEq

/-- An armed timer. -/
structure Timer where
  number : Nat
  key : String
  deadline : Nat
  span : Span
  deriving DecidableEq

/-- What the owner of a subscription holds. -/
structure Reply (μ : Type) where
  number : Nat
  key : String
  deadline : Nat
  outcome : Option (Outcome μ)

end Correlator

/-- The table of pending subscriptions with its timers and the replies
that are held. -/
structure Correlator (μ : Type) where
  entries : List Correlator.Entry := []
  timers : List Correlator.Timer := []
  replies : List (Correlator.Reply μ) := []
  next : Nat := 1
  closed : Bool := false

namespace Correlator

variable {μ : Type}

-- =================================================================== looking

/-- The subscription that is pending under a key. -/
def pending? (c : Correlator μ) (key : String) : Option Entry := c.entries.find? (·.key == key)

/-- Whether some subscription is pending under a key. -/
def isPending (c : Correlator μ) (key : String) : Bool := (c.pending? key).isSome

/-- The number of pending subscriptions. -/
def pendingCount (c : Correlator μ) : Nat := c.entries.length

/-- Whether the subscription pending under a key is this very one. -/
def holds (c : Correlator μ) (key : String) (number : Nat) : Bool :=
  (c.pending? key).any (·.number == number)

/-- The reply with a number, if it is held. -/
def reply? (c : Correlator μ) (number : Nat) : Option (Reply μ) :=
  c.replies.find? (·.number == number)

/-- How the subscription of a held reply ended, if it has. -/
def outcome? (c : Correlator μ) (number : Nat) : Option (Outcome μ) :=
  (c.reply? number).bind (·.outcome)

/-- The armed timer of a subscription. -/
def timer? (c : Correlator μ) (number : Nat) : Option Timer :=
  c.timers.find? (·.number == number)

-- ================================================================ small steps

/-- Takes the entry under a key out of the table and stops the timer that
was armed for it. -/
def withdraw (c : Correlator μ) (e : Entry) : Correlator μ :=
  { c with
    entries := c.entries.filter (·.key != e.key)
    timers := c.timers.filter (·.number != e.number) }

/-- The reply with an outcome, if it has the number. -/
def Reply.settled (number : Nat) (o : Outcome μ) (r : Reply μ) : Reply μ :=
  if r.number = number then { r with outcome := some o } else r

/-- Gives the reply with a number an outcome, if it is held. -/
def settle (c : Correlator μ) (number : Nat) (o : Outcome μ) : Correlator μ :=
  { c with replies := c.replies.map (Reply.settled number o) }

/-- The reply of the next subscription. -/
def newReply (c : Correlator μ) (now : Nat) (key : String) (span : Span) : Reply μ :=
  ⟨c.next, key, span.deadline now, none⟩

/-- Enters a subscription under the next number, with its timer and its reply. -/
def register (c : Correlator μ) (now : Nat) (key : String) (span : Span) : Correlator μ :=
  { c with
    entries := c.entries ++ [⟨c.next, key⟩]
    timers := c.timers ++ [⟨c.next, key, span.deadline now, span⟩]
    replies := c.replies ++ [c.newReply now key span]
    next := c.next + 1 }

/-- Ends the subscription of an entry: its reply has an outcome. -/
def resolve (c : Correlator μ) (e : Entry) (o : Outcome μ) : Correlator μ :=
  (c.withdraw e).settle e.number o

-- ================================================================= operations

/-- Subscribes to a key for a span of time: the reply, or why there is none. -/
def subscribe (c : Correlator μ) (now : Nat) (key : String) (span : Span) :
    Correlator μ × Except ReplyError (Reply μ) :=
  if c.closed then (c, .error .closed)
  else if c.isPending key then ({ c with next := c.next + 1 }, .error (.alreadyPending key))
  else (c.register now key span, .ok (c.newReply now key span))

/-- Publishes a message under a key, if it has one: the message comes
back if nobody waits for it. -/
def publish (c : Correlator μ) (key : Option String) (m : μ) : Correlator μ × Option μ :=
  match key.bind c.pending? with
  | some e => (c.resolve e (.ok m), none)
  | none => (c, some m)

/-- Gives a subscription up while its reply is held: whether it was pending. -/
def unsubscribe (c : Correlator μ) (key : String) (number : Nat) : Correlator μ × Bool :=
  if c.holds key number then (c.resolve ⟨number, key⟩ (.error .closed), true) else (c, false)

/-- Lets go of a reply; its subscription ends with it. -/
def release (c : Correlator μ) (key : String) (number : Nat) : Correlator μ :=
  let c := if c.holds key number then c.withdraw ⟨number, key⟩ else c
  { c with replies := c.replies.filter (·.number != number) }

/-- A timer fires: its subscription ends, if it is still pending. -/
def fire (c : Correlator μ) (t : Timer) : Correlator μ :=
  if c.holds t.key t.number then
    c.resolve ⟨t.number, t.key⟩ (.error (.timeout t.key t.span))
  else c

/-- All timers that are due fire. -/
def expire (c : Correlator μ) (now : Nat) : Correlator μ :=
  (c.timers.filter (·.deadline ≤ now)).foldl fire c

/-- Ends every subscription and admits no more: how many ended. -/
def close (c : Correlator μ) : Correlator μ × Nat :=
  (c.entries.foldl (fun c e => c.resolve e (.error .closed)) { c with closed := true },
    c.entries.length)

end Correlator

end DeviceTwin
