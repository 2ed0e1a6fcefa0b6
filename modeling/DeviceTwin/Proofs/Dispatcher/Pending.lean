/-
What a frame does for a pending request.

A request is pending (`Pending`) from when it is registered until it is
cancelled, its frame is refused or its subscription ends. In that time its
subscription is in the table, so a frame with its correlation id is taken in
for it and for nobody else (`Sound.take_pending`).

What becomes of the request is a matter of the run that goes on with this
frame (`extend`). There the frame is the first thing that ends its
subscription, whatever comes later, and the law of one request alone says
the rest (`Pending.ends`).
-/
import DeviceTwin.Proofs.Dispatcher.Residue

namespace DeviceTwin.Dispatcher

variable {d : Dispatcher} {config : Config} {moves : List Move}

-- ================================================================== the table

/-- A call whose subscription has not ended has it in the table. -/
theorem Sound.mem_entries_of_open (hs : Sound d) {id : Nat} {call : Call}
    (hc : d.call? id = some call) {e : Correlator.Entry}
    (he : call.state.subscription? = some e) (ho : d.correlator.outcome? e.number = none) :
    e ∈ d.correlator.entries := by
  obtain ⟨r, hr, rfl⟩ := hs.exists_reply (hs.call?_eq_some.mp hc).1 he
  change d.correlator.reply? r.number = some r at hr
  have hopen : r.outcome = none := by
    change d.correlator.outcome? r.number = none at ho
    rw [Correlator.outcome?, hr] at ho
    exact ho
  exact hs.table.mem_entries.mpr ⟨r, (hs.table.reply?_eq_some.mp hr).1, hopen, rfl⟩

/-- An envelope under the correlation id of a subscription in the table goes
to that subscription, and nothing else changes. -/
theorem Sound.take_pending (hs : Sound d) {e : Correlator.Entry}
    (he : e ∈ d.correlator.entries) {f : Frame} {envelope : Envelope}
    (hf : f.decode = .ok envelope) (hid : envelope.correlationId = some e.key) :
    d.take f = ({ d with correlator := d.correlator.resolve e (.ok envelope) }, .ok none) := by
  have hpending : (some e.key).bind d.correlator.pending? = some e :=
    hs.table.pending?_eq_some.mpr ⟨he, rfl⟩
  simp only [take, hf, Correlator.publish, hid, hpending]

-- ================================================================== taking in

/-- Taking a frame in is one move, and then the client settles. -/
theorem service_inbound (d : Dispatcher) (ops : List Operation) (now : Nat) (f : Frame) :
    d.service (ops ++ [.inbound now f])
      = d.service ops ++ .take f :: ((d.serve ops).take f).1.settling now := by
  rw [service_append]
  show _ = _ ++ .take f :: ((d.serve ops).run [.take f]).settling now
  exact congrArg _ (List.append_nil _)

namespace Exchange

/-- The state at the end of the run. -/
def state (_ : Exchange config moves) : Dispatcher := (ofConfig config).run moves

theorem sound_state (x : Exchange config moves) : Sound x.state :=
  (sound_ofConfig config).run moves

/-- The subscription of a request. -/
def entry (x : Exchange config moves) : Correlator.Entry := ⟨x.reply.number, x.key⟩

-- ==================================================================== waiting

/-- A request that has not ended in any way. -/
structure Pending (x : Exchange config moves) : Prop where
  kept : .drop x.callId ∉ x.after
  unrefused : ∀ err, x.answer? ≠ some (.error err)
  unended : x.ending? = none

/-- The subscription of a pending request is in the table. -/
theorem Pending.mem_entries {x : Exchange config moves} (h : x.Pending) :
    x.entry ∈ x.state.correlator.entries := by
  have hstands : Stands x.state x.callId (x.request.prepared x.fresh) x.entry
      x.answer? x.ending? := x.stands h.kept
  rw [h.unended] at hstands
  generalize ha : x.answer? = a? at hstands
  cases hstands with
  | sending hc ho => exact x.sound_state.mem_entries_of_open hc rfl ho
  | waiting hc ho => exact x.sound_state.mem_entries_of_open hc rfl ho
  | ended _ _ _ hv =>
      -- without an end there is only a refusal
      cases a? with
      | none => cases hv
      | some a =>
          cases a with
          | error err => exact absurd ha (h.unrefused err)
          | ok u => cases hv

-- =================================================================== going on

/-- The request in a run that goes on. -/
def extend (x : Exchange config moves) (later : List Move) :
    Exchange config (moves ++ later) :=
  { x with
    after := x.after ++ later
    moves_eq := by
      conv => enter [1, 1]; rw [x.moves_eq]
      rw [List.append_assoc, List.cons_append] }

theorem answer?_extend (x : Exchange config moves) (later : List Move) :
    (x.extend later).answer? = x.answer?.or (later.findSome? (Move.answer? x.callId)) :=
  List.findSome?_append

theorem ending?_extend (x : Exchange config moves) (later : List Move) :
    (x.extend later).ending?
      = x.ending?.or (later.findSome? (Move.outcome? x.entry config.timeout)) :=
  List.findSome?_append

/-- A frame is no answer for a frame that was sent. -/
theorem answer?_extend_take (x : Exchange config moves) (f : Frame) (later : List Move) :
    (x.extend (.take f :: later)).answer?
      = x.answer?.or (later.findSome? (Move.answer? x.callId)) := by
  rw [answer?_extend, Lookup.findSome?_cons, Move.answer?, Option.none_or]

namespace Pending

variable {x : Exchange config moves} {f : Frame} {envelope : Envelope}

theorem kept_extend (h : x.Pending) {later : List Move} (hlater : .drop x.callId ∉ later) :
    .drop x.callId ∉ (x.extend (.take f :: later)).after := by
  intro hmem
  rcases List.mem_append.mp hmem with hmem | hmem
  · exact h.kept hmem
  · rcases List.mem_cons.mp hmem with heq | hmem
    · cases heq
    · exact hlater hmem

/-- A frame with its correlation id is the first thing that ends its
subscription. -/
theorem ending?_extend_take (h : x.Pending) (hf : f.decode = .ok envelope)
    (hid : envelope.correlationId = some x.key) (later : List Move) :
    (x.extend (.take f :: later)).ending? = some (.ok envelope) := by
  have hfirst : Move.outcome? x.entry config.timeout (.take f) = some (.ok envelope) := by
    simp only [Move.outcome?, hf]
    exact if_pos hid
  rw [ending?_extend, h.unended, Option.none_or, List.findSome?_cons, hfirst]

end Pending

/-- A request ends with a result by a frame that is taken in while it is
pending, and nothing else comes of the frame. -/
structure Ends (x : Exchange config moves) (f : Frame) (result : CallResult) : Prop where
  /-- The application does not see it. -/
  unseen : (x.state.take f).2 = .ok none
  /-- The calls and the transport stay as they are. -/
  stays : (x.state.take f).1 = { x.state with correlator := (x.state.take f).1.correlator }
  /-- So does what is pending for others. -/
  others : (x.state.take f).1.correlator.others x.reply.number
    = x.state.correlator.others x.reply.number
  /-- The request ends with the result when its own frame is accepted,
  whatever else happens before and after that. -/
  run : ∀ later, .drop x.callId ∉ later →
    x.answer?.or (later.findSome? (Move.answer? x.callId)) = some (.ok ()) →
    (((x.state.take f).1.run later).poll x.callId).result? x.callId = some result
  /-- Between operations it ends at once. -/
  serve : ∀ now ops, moves = (ofConfig config).service ops → x.answer? = some (.ok ()) →
    ((ofConfig config).serve (ops ++ [.inbound now f])).result? x.callId = some result

/-- A pending request gets the envelope under its correlation id, and ends
with what it makes of the signal in it. -/
theorem Pending.ends {x : Exchange config moves} (h : x.Pending) {f : Frame}
    {envelope : Envelope} (hf : f.decode = .ok envelope)
    (hid : envelope.correlationId = some x.key) {s : Signal}
    (hs : envelope.toSignal = .ok s) :
    x.Ends f (((x.request.prepared x.fresh).interpret s).map some) := by
  have htake := x.sound_state.take_pending h.mem_entries hf hid
  have hverdict : (x.request.prepared x.fresh).verdict (some (.ok ())) (some (.ok envelope))
      = some (((x.request.prepared x.fresh).interpret s).map some) := by
    simp only [Request.verdict, Request.conclude, hs]
  refine ⟨?_, ?_, ?_, ?_, ?_⟩
  · rw [htake]
  · rw [htake]
  · rw [htake]
    exact x.sound_state.table.others_resolve h.mem_entries (.ok envelope)
  · intro later hlater hanswer
    have hend := ((x.extend (.take f :: later)).stands (h.kept_extend hlater)).result?_poll
      ((sound_ofConfig config).run _)
    rw [h.ending?_extend_take hf hid, answer?_extend_take, hanswer, run_append] at hend
    exact hend.trans hverdict
  · rintro now ops rfl hanswer
    have hkept := h.kept_extend (f := f)
      (drop_not_mem_settling (((ofConfig config).serve ops).take f).1 now x.callId)
    have hend := (x.extend _).result?_serve hkept (service_inbound _ ops now f).symm
    rw [verdict, h.ending?_extend_take hf hid, answer?_extend_take, hanswer,
      Option.some_or] at hend
    exact hend.trans hverdict

end Exchange

end DeviceTwin.Dispatcher
