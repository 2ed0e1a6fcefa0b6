/-
How requests end.

What a request comes to is a matter of two things: the first answer that
the transport gives for its frame, and the first thing that ends its
subscription, be it an envelope with its correlation id, its timer or the
closing. `Request.verdict` is the specification of one request alone, a
function of these two and of nothing else.

`requests_end_as_if_alone` says that every request that is registered and
not cancelled has the result that its verdict gives, whatever other
requests, emissions, frames and timers there are in the run, in whatever
order things happen, and however often its key was in use before.

# The simulation

`Stands` relates the state of all calls to the state of the one request:
what was answered so far and what its subscription came to so far. One
move changes the two by what the move says about this request
(`Stands.move`); for the moves of others this is the content of
`call?_move` and `Sound.outcome?_move`. A run does the same with the
first of each (`Stands.run`). The request may learn late how its
subscription ended: while its frame is not accepted nothing looks at the
reply, which keeps the outcome until then.
-/
import DeviceTwin.Proofs.Dispatcher.Operation

namespace DeviceTwin

/-- What a request comes to after an answer for its frame and an end of
its subscription: it fails if its frame was refused, and otherwise is
concluded by how its subscription ended. -/
def Request.verdict (r : Request) :
    Option Outbox.Answer → Option (Outcome Envelope) → Option CallResult
  | some (.error e), _ => some (.error (.transport e))
  | some (.ok ()), some o => some ((r.conclude o).map some)
  | some (.ok ()), none => none
  | none, _ => none

/-- A verdict stands: neither a second answer nor a second end matters. -/
theorem Request.verdict_or {r : Request} {a? : Option Outbox.Answer}
    {o? : Option (Outcome Envelope)} {result : CallResult}
    (h : r.verdict a? o? = some result) (a?' : Option Outbox.Answer)
    (o?' : Option (Outcome Envelope)) :
    r.verdict (a?.or a?') (o?.or o?') = some result := by
  cases a? with
  | none => cases h
  | some a =>
      cases a with
      | error e => exact h
      | ok u =>
          cases o? with
          | none => cases h
          | some o => exact h

namespace Dispatcher

variable {d : Dispatcher} {id : Nat} {r : Request}
  {e : Correlator.Entry}

/-- The answer for the frame of a call in a move. -/
def Move.answer? (id : Nat) : Move → Option Outbox.Answer
  | answer i a => if i = id then some a else none
  | enter .. | emit | transport _ | take _ | fire _ | poll _ | drop _
  | close => none

/-- A move about another call, or about none, has no answer for a call. -/
theorem Move.answer?_of_call? {m : Move} (hm : m.call? ≠ some id) :
    m.answer? id = none := by
  cases m with
  | answer i a => exact if_neg fun h => hm (congrArg some h)
  | enter | emit | transport | take | fire | poll | drop | close => rfl

-- ============================================================== simulation

/-- Where a request stands, after the first answer for its frame and the
first end of its subscription so far. -/
inductive Stands (d : Dispatcher) (id : Nat) (r : Request)
    (e : Correlator.Entry) :
    Option Outbox.Answer → Option (Outcome Envelope) → Prop
  | sending {o? : Option (Outcome Envelope)}
      (hc : d.call? id = some ⟨id, .sending r e.key e.number⟩)
      (ho : d.correlator.outcome? e.number = o?) :
      Stands d id r e none o?
  | waiting {o? : Option (Outcome Envelope)}
      (hc : d.call? id = some ⟨id, .waiting r e.key e.number⟩)
      (ho : d.correlator.outcome? e.number = o?) :
      Stands d id r e (some (.ok ())) o?
  | ended {a? : Option Outbox.Answer} {o? : Option (Outcome Envelope)}
      {result : CallResult} (hid : id < d.nextCall)
      (hc : d.call? id = none) (hr : d.result? id = some result)
      (hv : r.verdict a? o? = some result) : Stands d id r e a? o?

namespace Stands

variable {a? : Option Outbox.Answer} {o? : Option (Outcome Envelope)}

theorem finish (h : Sound d) {call : Call} (hc : d.call? id = some call)
    {result : CallResult} (hv : r.verdict a? o? = some result) :
    Stands (d.finish call result) id r e a? o? := by
  obtain ⟨hmem, rfl⟩ := h.call?_eq_some.mp hc
  refine .ended (h.given call hmem) ?_ (h.result?_finish hmem result) hv
  rw [call?_finish, if_pos rfl]

theorem answer (h : Sound d) (hs : Stands d id r e a? o?)
    (a : Outbox.Answer) :
    Stands (d.answer id a) id r e (a?.or (some a)) o? := by
  cases hs with
  | sending hc ho =>
      cases a with
      | ok u =>
          -- an outcome that came while the frame was in line is still there
          rw [answer_ok hc]
          refine .waiting ?_ ho
          rw [call?_goOn, hc, Option.map_some, Call.goOn, if_pos rfl]
      | error err =>
          rw [answer_error hc]
          exact finish h hc rfl
  | waiting hc ho =>
      rw [answer_waiting hc]
      exact .waiting hc ho
  | ended hid hc hr hv =>
      have hstands := Request.verdict_or hv (some a) none
      rw [Option.or_none] at hstands
      rw [answer_none hc]
      exact .ended hid hc hr hstands

theorem poll (h : Sound d) (hs : Stands d id r e a? o?) :
    Stands (d.poll id) id r e a? o? := by
  cases hs with
  | sending hc ho =>
      rw [poll_sending hc]
      exact .sending hc ho
  | waiting hc ho =>
      cases o? with
      | none =>
          rw [poll_open hc ho]
          exact .waiting hc ho
      | some o =>
          rw [poll_ended hc ho]
          exact finish h hc rfl
  | ended hid hc hr hv =>
      rw [poll_none hc]
      exact .ended hid hc hr hv

/-- After a look at its reply the request has the result that its verdict
gives. -/
theorem result?_poll (h : Sound d) (hs : Stands d id r e a? o?) :
    (d.poll id).result? id = r.verdict a? o? := by
  cases hs with
  | sending hc ho =>
      rw [poll_sending hc, h.result?_eq_none hc]
      rfl
  | waiting hc ho =>
      cases o? with
      | none =>
          rw [poll_open hc ho, h.result?_eq_none hc]
          rfl
      | some o =>
          rw [poll_ended hc ho]
          exact h.result?_finish (h.call?_eq_some.mp hc).1 _
  | ended hid hc hr hv => rw [poll_none hc, hr, hv]

/-- At any time the request has no result or the one that its verdict
gives. -/
theorem result? (h : Sound d) (hs : Stands d id r e a? o?) :
    d.result? id = none ∨ d.result? id = r.verdict a? o? := by
  cases hs with
  | sending hc ho => exact Or.inl (h.result?_eq_none hc)
  | waiting hc ho => exact Or.inl (h.result?_eq_none hc)
  | ended hid hc hr hv => exact Or.inr (hr.trans hv.symm)

/-- A move about another call, or about none, gives the request at most
an end of its subscription. -/
theorem other (h : Sound d) (hs : Stands d id r e a? o?) {m : Move}
    (hm : m.call? ≠ some id) :
    Stands (d.move m) id r e a? (o?.or (m.outcome? e d.timeout)) := by
  cases hs with
  | sending hc ho =>
      have hid := h.given _ (h.call?_eq_some.mp hc).1
      refine .sending ((call?_move hid hm).trans hc) ?_
      rw [← ho]
      exact h.outcome?_move hm hc (e := e) rfl
  | waiting hc ho =>
      have hid := h.given _ (h.call?_eq_some.mp hc).1
      refine .waiting ((call?_move hid hm).trans hc) ?_
      rw [← ho]
      exact h.outcome?_move hm hc (e := e) rfl
  | ended hid hc hr hv =>
      refine .ended (Nat.lt_of_lt_of_le hid (d.nextCall_le_move m))
        ((call?_move hid hm).trans hc) ((result?_move hid hm).trans hr) ?_
      simpa using Request.verdict_or hv none (m.outcome? e d.timeout)

/-- One move changes where a request stands by what it says about the
request. -/
theorem move (h : Sound d) (hs : Stands d id r e a? o?) {m : Move}
    (hm : m ≠ .drop id) :
    Stands (d.move m) id r e (a?.or (m.answer? id))
      (o?.or (m.outcome? e d.timeout)) := by
  by_cases hown : m.call? = some id
  · cases m with
    | answer i a =>
        obtain rfl : i = id := Option.some.inj hown
        rw [Move.answer?, if_pos rfl, Move.outcome?, Option.or_none]
        exact hs.answer h a
    | poll i =>
        obtain rfl : i = id := Option.some.inj hown
        rw [Move.answer?, Move.outcome?, Option.or_none, Option.or_none]
        exact hs.poll h
    | drop i =>
        obtain rfl : i = id := Option.some.inj hown
        exact absurd rfl hm
    | enter | emit | transport | take | fire | close => cases hown
  · rw [Move.answer?_of_call? hown, Option.or_none]
    exact hs.other h hown

/-- A run changes where a request stands by the first answer and the first
end in it. -/
theorem run {moves : List Move} (hkept : .drop id ∉ moves) :
    ∀ {d : Dispatcher} {a? : Option Outbox.Answer}
      {o? : Option (Outcome Envelope)}, Sound d →
      Stands d id r e a? o? →
      Stands (d.run moves) id r e
        (a?.or (moves.findSome? (Move.answer? id)))
        (o?.or (moves.findSome? (Move.outcome? e d.timeout))) := by
  induction moves with
  | nil =>
      intro d a? o? h hs
      rw [List.findSome?_nil, List.findSome?_nil, Option.or_none,
        Option.or_none]
      exact hs
  | cons m moves ih =>
      intro d a? o? h hs
      rw [List.mem_cons, not_or] at hkept
      have hnext := ih hkept.2 (h.move m) (hs.move h (Ne.symm hkept.1))
      rw [timeout_move, Option.or_assoc, Option.or_assoc] at hnext
      rw [run_cons, Lookup.findSome?_cons, Lookup.findSome?_cons]
      exact hnext

end Stands

-- =============================================================== exchanges

/-- A request whose subscription is admitted is sent. -/
theorem enter_admitted {now : Nat} {key : String}
    {reply : Correlator.Reply Envelope}
    (hkey : r.signal.correlationId = some key)
    (hs : (d.correlator.subscribe now key d.timeout).2 = .ok reply) :
    reply = d.correlator.newReply now key d.timeout
    ∧ d.enter now r
      = { d with correlator := d.correlator.register now key d.timeout }.enroll
          (.sending r key d.correlator.next) := by
  obtain ⟨-, hsub⟩ | ⟨-, hsub⟩ | ⟨-, -, hsub⟩ :=
    d.correlator.subscribe_cases now key d.timeout
  · rw [hsub] at hs
    cases hs
  · rw [hsub] at hs
    cases hs
  · rw [hsub] at hs
    refine ⟨(Except.ok.inj hs).symm, ?_⟩
    simp only [enter, hkey, hsub]
    rfl

/-- It stands at its beginning. -/
theorem Stands.enter (h : Sound d) {now : Nat} {key : String}
    {reply : Correlator.Reply Envelope}
    (hkey : r.signal.correlationId = some key)
    (hs : (d.correlator.subscribe now key d.timeout).2 = .ok reply) :
    Stands (d.enter now r) d.nextCall r ⟨reply.number, key⟩ none none := by
  obtain ⟨rfl, heq⟩ := enter_admitted hkey hs
  rw [heq]
  refine .sending (call?_enroll_self (d := { d with correlator := _ })
    h.given _) ?_
  show (d.correlator.register now key d.timeout).outcome? d.correlator.next
    = none
  rw [Correlator.outcome?, h.table.reply?_register, if_pos rfl]
  rfl

/-- A request in a run that was registered: what went before it, what it
was, the correlation id and the reply that it was registered with, and
what came after it. -/
structure Exchange (config : Config) (moves : List Move) where
  before : List Move
  now : Nat
  fresh : String
  request : Request
  key : String
  reply : Correlator.Reply Envelope
  after : List Move
  moves_eq : moves = before ++ .enter now fresh request :: after
  keyed : (request.prepared fresh).signal.correlationId = some key
  registered :
    (((ofConfig config).run before).correlator.subscribe now key
      config.timeout).2 = .ok reply

namespace Exchange

variable {config : Config} {moves : List Move}

/-- The number of the call. -/
def callId (x : Exchange config moves) : Nat :=
  ((ofConfig config).run x.before).nextCall

/-- The first answer that the transport gave for its frame. -/
def answer? (x : Exchange config moves) : Option Outbox.Answer :=
  x.after.findSome? (Move.answer? x.callId)

/-- The first thing that ended its subscription. -/
def ending? (x : Exchange config moves) : Option (Outcome Envelope) :=
  x.after.findSome?
    (Move.outcome? ⟨x.reply.number, x.key⟩ config.timeout)

/-- What the request comes to by itself. -/
def verdict (x : Exchange config moves) : Option CallResult :=
  (x.request.prepared x.fresh).verdict x.answer? x.ending?

/-- A request that is not cancelled stands where its own answer and its
own end have brought it. -/
theorem stands (x : Exchange config moves) (hkept : .drop x.callId ∉ x.after) :
    Stands ((ofConfig config).run moves) x.callId
      (x.request.prepared x.fresh) ⟨x.reply.number, x.key⟩
      x.answer? x.ending? := by
  have hbefore := (sound_ofConfig config).run x.before
  have htimeout := (ofConfig config).timeout_run x.before
  have hregistered := x.registered
  rw [show config.timeout = (ofConfig config).timeout from rfl, ← htimeout]
    at hregistered
  have hchange := enter_change ((ofConfig config).run x.before) x.now
    (x.request.prepared x.fresh)
  have hend := Stands.run hkept (hbefore.change hchange)
    (Stands.enter hbefore x.keyed hregistered)
  rw [hchange.timeout, htimeout, Option.none_or, Option.none_or] at hend
  conv => enter [1]; rw [x.moves_eq]
  rw [run_append, run_cons]
  exact hend

/-- Between the operations of a client a request that is not cancelled
has the result that its verdict gives, and none as long as it gives
none. -/
theorem result?_serve (x : Exchange config moves)
    (hkept : .drop x.callId ∉ x.after) {ops : List Operation}
    (hops : moves = (ofConfig config).service ops) :
    ((ofConfig config).serve ops).result? x.callId = x.verdict := by
  obtain ⟨hrun, hsettled⟩ :=
    (sound_ofConfig config).serve_eq_run ops (settled_ofConfig config)
  rw [← hops] at hrun
  have hend := (x.stands hkept).result?_poll ((sound_ofConfig config).run _)
  rw [← hrun, (hsettled x.callId).poll_eq] at hend
  exact hend

end Exchange

/-- A request for a thing. -/
def retrieval : Request where
  signal := .command
    { type := "things.commands:retrieveThing"
      entity := ⟨"org.acme", "lamp", by decide, by decide⟩
      path := .root
      value := none
      headers := .empty }
  expected := .kind .response
  refusal := .kind .error
  onRefusal _ := .closed

/-- The frame of a reply to it under a correlation id. -/
def replyTo (key : String) : Frame :=
  .text ("\x7b\"topic\":\"org.acme/lamp/things/twin/commands/retrieveThing\","
    ++ "\"headers\":\x7b\"correlation-id\":\"" ++ key
    ++ "\"\x7d,\"path\":\"/\",\"status\":200\x7d")

/-- Two requests; the second has its reply while its frame is in line,
and the first times out. -/
def overlapping : List Move :=
  [.enter 0 "a" retrieval, .enter 0 "b" retrieval, .take (replyTo "b"),
    .fire 1, .answer 1 (.ok ())]

/-- The second of them. -/
def overlapped : Exchange {} overlapping where
  before := [.enter 0 "a" retrieval]
  now := 0
  fresh := "b"
  request := retrieval
  key := "b"
  reply := ⟨2, "b", Span.deadline 0 (.ms 60000), none⟩
  after := [.take (replyTo "b"), .fire 1, .answer 1 (.ok ())]
  moves_eq := rfl
  keyed := by decide
  registered := rfl

end Dispatcher

end DeviceTwin
