/-
What a client hands to the transport.

Signals leave a client in eight ways (`Emission`). Three of them are
requests, the other five are over when their frame is accepted; each is one
of the operations of the client (`Emission.start_eq`), and the signal that
leaves has been adjusted to the channel that its own headers name, whatever
was done to it before (`Emission.exists_leaving`).

The frames that the operations of a run hand over are listed by `handed`.
The transport adds nothing to them: what is in its queue or in line, and
what the other end receives, was handed over before
(`received_was_handed`).
-/
import DeviceTwin.Client.AckRequest
import DeviceTwin.Client.LiveCommand
import DeviceTwin.Proofs.Dispatcher.Punctual
import DeviceTwin.Proofs.Dispatcher.Residue

namespace DeviceTwin

-- ================================================================== emissions

/-- A signal as it leaves on its own channel. -/
def Signal.leaving (s : Signal) : Signal := s.forChannel s.channel

/-- The ways in which a client sends signals. -/
inductive Emission where
  /-- A signal that waits for a reply, with `fresh` as its correlation id if
  it has none. -/
  | request (fresh : String) (r : Request)
  /-- A signal that waits for nothing. -/
  | emit (s : Signal)
  /-- A command of a thing, through a handle. -/
  | askThing (fresh : String) (h : Handle) (c : Command)
  /-- A command of a policy, through a handle. -/
  | askPolicy (fresh : String) (h : Handle) (c : Command)
  /-- A signal on the live channel. -/
  | emitLive (s : Signal)
  /-- The response to a command that came in. -/
  | respond (c : Command) (status : Status) (value : Option Payload)
  /-- An event that such a command brought about. -/
  | announce (c : Command) (name : String) (value : Option Payload) (time : Timestamp)
  /-- The answer to a change that asked for one. -/
  | acknowledge (r : AckRequest) (status : Status) (payload : Option Payload)

namespace Emission

/-- Starts it. -/
def start (d : Dispatcher) (now : Nat) : Emission → Dispatcher
  | request fresh r => d.request now fresh r
  | emit s => d.emit now s
  | askThing fresh h c => d.askThing now fresh h c
  | askPolicy fresh h c => d.askPolicy now fresh h c
  | emitLive s => d.emitLive now s
  | respond c status value => d.respond now c status value
  | announce c name value time => d.announce now c name value time
  | acknowledge r status payload => d.acknowledge now r status payload

/-- The request that it is, if it waits for a reply, with its fresh id. -/
def request? : Emission → Option (String × Request)
  | request fresh r => some (fresh, r)
  | askThing fresh h c => some (fresh, h.thingRequest c)
  | askPolicy fresh h c => some (fresh, h.policyRequest c)
  | emit _ | emitLive _ | respond .. | announce .. | acknowledge .. => none

/-- The signal that leaves. -/
def signal : Emission → Signal
  | request fresh r => r.signal.prepared fresh
  | emit s => s.leaving
  | askThing fresh h c => (h.thingRequest c).signal.prepared fresh
  | askPolicy fresh h c => (h.policyRequest c).signal.prepared fresh
  | emitLive s => (s.forChannel .live).leaving
  | respond c status value =>
      ((Signal.response (c.response status value)).forChannel .live).leaving
  | announce c name value time =>
      ((Signal.event (c.event name value time)).forChannel .live).leaving
  | acknowledge r status payload =>
      (Signal.acknowledgement (r.answer status payload)).leaving

/-- The frame that leaves. -/
def frame (F : WireFormat) (x : Emission) : Frame := F.encode (.ofSignal x.signal)

/-- The operation that it is. -/
def operation (F : WireFormat) (now : Nat) (x : Emission) : Dispatcher.Operation :=
  match x.request? with
  | some (fresh, r) => .request now fresh r
  | none => .emitFrame now (x.frame F)

/-- To send a signal in one of the ways is to do this operation. -/
theorem start_eq (d : Dispatcher) (now : Nat) (x : Emission) :
    x.start d now = d.operate (x.operation d.format now) := by
  cases x <;> rfl

/-- A request leaves like any other signal once it has a correlation id. -/
theorem prepared_eq_leaving (s : Signal) (fresh : String) :
    s.prepared fresh
      = (s.withHeaders (s.headers.ensureCorrelationId fresh)).leaving := by
  simp only [Signal.prepared, Signal.leaving, Signal.channel, Signal.headers_withHeaders]

/-- Whatever way it takes, a signal is adjusted last to the channel that its
own headers name. -/
theorem exists_leaving (x : Emission) : ∃ s : Signal, x.signal = s.leaving := by
  cases x with
  | request fresh r => exact ⟨_, prepared_eq_leaving _ fresh⟩
  | askThing fresh h c => exact ⟨_, prepared_eq_leaving _ fresh⟩
  | askPolicy fresh h c => exact ⟨_, prepared_eq_leaving _ fresh⟩
  | emit | emitLive | respond | announce | acknowledge => exact ⟨_, rfl⟩

end Emission

namespace Outbox

/-- The frames that are accepted or in line. -/
def frames (o : Outbox) : List Frame := o.queue ++ o.line.map (·.frame)

/-- A frame is held if it is accepted or somebody is in line with it. -/
theorem mem_frames {o : Outbox} {f : Frame} :
    f ∈ o.frames ↔ f ∈ o.queue ∨ ∃ w ∈ o.line, w.frame = f := by
  simp [frames]

variable {o : Outbox} {f : Frame}

/-- Whoever sends brings its own frame and no other. -/
theorem frames_send {now sender : Nat} {g : Frame}
    (hf : f ∈ (o.send now sender g).1.frames) : f ∈ o.frames ∨ f = g := by
  unfold send at hf
  split at hf
  · exact .inl hf
  · split at hf
    · rcases mem_frames.mp hf with hqueue | hline
      · rcases List.mem_append.mp hqueue with hold | hnew
        · exact .inl (mem_frames.mpr (.inl hold))
        · exact .inr (List.mem_singleton.mp hnew)
      · exact .inl (mem_frames.mpr (.inr hline))
    · rcases mem_frames.mp hf with hqueue | ⟨w, hw, hframe⟩
      · exact .inl (mem_frames.mpr (.inl hqueue))
      · rcases List.mem_append.mp hw with hold | hnew
        · exact .inl (mem_frames.mpr (.inr ⟨w, hold, hframe⟩))
        · rw [List.mem_singleton.mp hnew] at hframe
          exact .inr hframe.symm

/-- So does whoever does not wait. -/
theorem frames_trySend {g : Frame} (hf : f ∈ (o.trySend g).1.frames) :
    f ∈ o.frames ∨ f = g := by
  unfold trySend at hf
  split at hf
  · rcases mem_frames.mp hf with hqueue | hline
    · rcases List.mem_append.mp hqueue with hold | hnew
      · exact .inl (mem_frames.mpr (.inl hold))
      · exact .inr (List.mem_singleton.mp hnew)
    · exact .inl (mem_frames.mpr (.inr hline))
  · exact .inl hf

/-- Who gets a place was in line for it. -/
theorem frames_receive {n : Nat} (hf : f ∈ (o.receive n).1.frames) : f ∈ o.frames := by
  rcases mem_frames.mp hf with hqueue | ⟨w, hw, hframe⟩
  · rcases List.mem_append.mp hqueue with hold | hnew
    · exact mem_frames.mpr (.inl (List.mem_of_mem_drop hold))
    · obtain ⟨w, hw, hframe⟩ := List.mem_map.mp hnew
      exact mem_frames.mpr (.inr ⟨w, List.mem_of_mem_take hw, hframe⟩)
  · exact mem_frames.mpr (.inr ⟨w, List.mem_of_mem_drop hw, hframe⟩)

/-- A transport that takes a frame at once. -/
structure Accepting (o : Outbox) : Prop where
  connected : o.connected = true
  line : o.line = []
  room : 0 < o.room

/-- Such a transport takes the frame behind those that it has. -/
theorem Accepting.send_eq {o : Outbox} (h : o.Accepting) (now sender : Nat) (f : Frame) :
    o.send now sender f = ({ o with queue := o.queue ++ [f] }, some (.ok ())) := by
  simp [send, h.connected, h.line, h.room]

/-- Where nobody stands in line nobody is sent away. -/
theorem expire_of_line {o : Outbox} (h : o.line = []) (now : Nat) :
    (o.expire now).1 = o := by
  obtain ⟨capacity, sendTimeout, queue, line, connected⟩ := o
  obtain rfl : line = [] := h
  rfl

/-- Who is sent away takes its frame along. -/
theorem frames_filter {p : Waiting → Bool}
    (hf : f ∈ { o with line := o.line.filter p }.frames) : f ∈ o.frames := by
  rcases mem_frames.mp hf with hqueue | ⟨w, hw, hframe⟩
  · exact mem_frames.mpr (.inl hqueue)
  · exact mem_frames.mpr (.inr ⟨w, List.mem_of_mem_filter hw, hframe⟩)

end Outbox

namespace Dispatcher

variable {d : Dispatcher} {f : Frame}

-- ================================================================== the format

/-- Nothing changes the format in which a client writes. -/
theorem format_move (d : Dispatcher) (m : Move) : (d.move m).format = d.format := by
  cases hop : m.op? with
  | some op => rw [d.move_op hop]
  | none =>
      have hchange := d.move_change hop
      generalize d.move m = d' at hchange ⊢
      cases hchange <;> rfl

/-- A run leaves the format as it is. -/
theorem format_run (moves : List Move) :
    ∀ d : Dispatcher, (d.run moves).format = d.format := by
  induction moves with
  | nil => exact fun _ => rfl
  | cons m moves ih =>
      intro d
      rw [run_cons, ih, format_move]

/-- So does an operation. -/
theorem Sound.format_operate (hs : Sound d) (op : Operation) :
    (d.operate op).format = d.format := by
  rw [hs.operate_eq_run, format_run]

-- ============================================================ what is handed over

/-- The frames that an operation hands to the transport. -/
def handed (d : Dispatcher) : Operation → List Frame
  | .request now fresh r =>
      let entered := d.enter now (r.prepared fresh)
      if (entered.call? d.nextCall).isSome then
        [entered.encode (r.prepared fresh).signal]
      else []
  | .emitFrame _ f | .trySend f => [f]
  | .cancel .. | .inbound .. | .receive .. | .disconnect _ | .shutdown _
  | .settle _ => []

/-- The frames that operations one after the other hand to the transport. -/
def handedIn (d : Dispatcher) : List Operation → List Frame
  | [] => []
  | op :: ops => d.handed op ++ (d.operate op).handedIn ops

/-- What the transport holds before an operation settles it held before or
was handed. -/
theorem frames_opening {op : Operation} (hf : f ∈ (d.run (d.opening op)).outbox.frames) :
    f ∈ d.outbox.frames ∨ f ∈ d.handed op := by
  cases op with
  | request now fresh r =>
      have hentered : (d.move (.enter now fresh r)).outbox = d.outbox :=
        d.outbox_enter now (r.prepared fresh)
      rw [opening, run_cons] at hf
      unfold handed
      split at hf
      case isTrue hstarted =>
        simp only [if_pos hstarted, List.mem_singleton]
        rw [← hentered]
        rw [show d.enter now (r.prepared fresh) = d.move (.enter now fresh r) from rfl,
          outbox_handing] at hf
        exact Outbox.frames_send hf
      case isFalse =>
        change f ∈ (d.move (.enter now fresh r)).outbox.frames at hf
        rw [hentered] at hf
        exact .inl hf
  | emitFrame now g =>
      rw [opening, run_cons] at hf
      change f ∈ (run _ (handing (d.enroll .emitting) now d.nextCall g)).outbox.frames at hf
      rw [show d.move .emit = d.enroll .emitting from rfl, outbox_handing] at hf
      rcases Outbox.frames_send hf with hold | hnew
      · exact .inl hold
      · exact .inr (List.mem_singleton.mpr hnew)
  | trySend g =>
      rcases Outbox.frames_trySend hf with hold | hnew
      · exact .inl hold
      · exact .inr (List.mem_singleton.mpr hnew)
  | cancel now id => exact .inl (Outbox.frames_filter hf)
  | inbound now g =>
      have hsame : (d.move (.take g)).outbox = d.outbox :=
        d.outbox_move fun outbox hsend => by cases hsend
      exact .inl (hsame ▸ hf)
  | receive now n =>
      rw [opening, outbox_verdicts] at hf
      exact .inl (Outbox.frames_receive hf)
  | disconnect now =>
      rw [opening, outbox_verdicts] at hf
      cases hf
  | shutdown | settle => exact .inl hf

/-- What the transport holds after an operation it held before or was
handed. -/
theorem Sound.frames_operate (hs : Sound d) {op : Operation}
    (hf : f ∈ (d.operate op).outbox.frames) : f ∈ d.outbox.frames ∨ f ∈ d.handed op := by
  rw [operate_opening] at hf
  cases hnow : op.now? with
  | none =>
      rw [hnow] at hf
      exact frames_opening hf
  | some now =>
      rw [hnow] at hf
      change f ∈ ((d.run (d.opening op)).settle now).outbox.frames at hf
      rw [(hs.run _).outbox_settle] at hf
      exact frames_opening (Outbox.frames_filter hf)

/-- What ties the parts of a client together stays through every operation. -/
theorem Sound.operate (hs : Sound d) (op : Operation) : Sound (d.operate op) := by
  rw [hs.operate_eq_run]
  exact hs.run _

/-- What the transport holds in the end was handed over, or it held it from
the start. -/
theorem Sound.frames_serve (ops : List Operation) :
    ∀ {d : Dispatcher}, Sound d → f ∈ (d.serve ops).outbox.frames →
      f ∈ d.outbox.frames ∨ f ∈ d.handedIn ops := by
  induction ops with
  | nil => exact fun _ hf => .inl hf
  | cons op ops ih =>
      intro d hs hf
      rcases ih (hs.operate op) hf with hheld | hlater
      · rcases hs.frames_operate hheld with hold | hnew
        · exact .inl hold
        · exact .inr (List.mem_append_left _ hnew)
      · exact .inr (List.mem_append_right _ hlater)

/-- What the other end receives was handed over. -/
theorem received_was_handed {config : Config} {ops : List Operation} {now n : Nat}
    (hf : f ∈ (((ofConfig config).serve ops).receive now n).2) :
    f ∈ (ofConfig config).handedIn ops := by
  have hheld : f ∈ ((ofConfig config).serve ops).outbox.frames :=
    Outbox.mem_frames.mpr (.inl (List.mem_of_mem_take hf))
  rcases (sound_ofConfig config).frames_serve ops hheld with hstart | hhanded
  · cases hstart
  · exact hhanded

-- ============================================================== what is sent

/-- An emission hands over its frame and no other. -/
theorem eq_frame_of_handed {x : Emission} {now : Nat}
    (hf : f ∈ d.handed (x.operation d.format now)) : f = x.frame d.format := by
  have hrequest : ∀ fresh r, x.signal = (r.prepared fresh).signal →
      f ∈ d.handed (.request now fresh r) → f = x.frame d.format := by
    intro fresh r hsignal hf
    simp only [handed] at hf
    split at hf
    · rw [List.mem_singleton.mp hf, encode, Emission.frame, hsignal]
      have hformat : (d.enter now (r.prepared fresh)).format = d.format :=
        d.format_move (.enter now fresh r)
      rw [hformat]
    · cases hf
  cases x with
  | request fresh r => exact hrequest fresh r rfl hf
  | askThing fresh h c => exact hrequest fresh (h.thingRequest c) rfl hf
  | askPolicy fresh h c => exact hrequest fresh (h.policyRequest c) rfl hf
  | emit | emitLive | respond | announce | acknowledge =>
      exact List.mem_singleton.mp hf

/-- After a signal was sent the transport holds what it held, and the frame of the
signal at most. -/
theorem Sound.frames_start (hs : Sound d) {x : Emission} {now : Nat}
    (hf : f ∈ (x.start d now).outbox.frames) : f ∈ d.outbox.frames ∨ f = x.frame d.format := by
  rw [x.start_eq] at hf
  exact (hs.frames_operate hf).imp_right eq_frame_of_handed

/-- An emission over a transport that accepts frames puts its frame behind those
that were accepted before, and is over. -/
theorem Sound.emitFrame_accepting (hs : Sound d) (ho : d.outbox.Accepting) (now : Nat)
    (f : Frame) :
    (d.emitFrame now f).outbox = { d.outbox with queue := d.outbox.queue ++ [f] }
    ∧ (d.emitFrame now f).result? d.nextCall = some (.ok none) := by
  let queued : Outbox := { d.outbox with queue := d.outbox.queue ++ [f] }
  let sent : Dispatcher := { d.enroll .emitting with outbox := queued }
  have hcall : sent.call? d.nextCall = some ⟨d.nextCall, .emitting⟩ :=
    call?_enroll_self hs.given .emitting
  have hsent : Sound sent := (hs.move .emit).move (.transport queued)
  have hmem := (hsent.call?_eq_some.mp hcall).1
  -- what there is before it settles
  have hopened : d.run (d.opening (.emitFrame now f))
      = sent.finish ⟨d.nextCall, .emitting⟩ (.ok none) := by
    have hsend := ho.send_eq now d.nextCall f
    change (d.enroll .emitting).outbox.send now d.nextCall f = _ at hsend
    rw [opening, handing, hsend]
    show sent.answer d.nextCall (.ok ()) = _
    simp only [answer, hcall]
    rfl
  have hover := hsent.finish hmem (.ok none)
  have hsettled : d.emitFrame now f
      = (sent.finish ⟨d.nextCall, .emitting⟩ (.ok none)).settle now := by
    rw [← hopened]
    exact d.operate_opening (.emitFrame now f)
  rw [hsettled]
  constructor
  · rw [hover.outbox_settle]
    exact Outbox.expire_of_line (o := queued) ho.line now
  · have hgone : (sent.finish ⟨d.nextCall, .emitting⟩ (.ok none)).call? d.nextCall = none := by
      rw [call?_finish, if_pos rfl]
    rw [hover.settle_eq_run, (gone_run _ (Nat.lt_succ_self _) hgone).2]
    exact hsent.result?_finish hmem (.ok none)

/-- A signal that waits for nothing is sent over a transport that accepts frames: its
frame is put behind those that were accepted before, and the call is over. -/
theorem Sound.start_accepting (hs : Sound d) (ho : d.outbox.Accepting) {x : Emission}
    (hx : x.request? = none) (now : Nat) :
    (x.start d now).outbox = { d.outbox with queue := d.outbox.queue ++ [x.frame d.format] }
    ∧ (x.start d now).result? d.nextCall = some (.ok none) := by
  have hoperation : x.operation d.format now = .emitFrame now (x.frame d.format) := by
    unfold Emission.operation
    rw [hx]
  rw [x.start_eq, hoperation]
  exact hs.emitFrame_accepting ho now _

/-- The frame of a request is put there as well, if the request is registered. -/
theorem Sound.outbox_request (hs : Sound d) (ho : d.outbox.Accepting) {now : Nat}
    {fresh : String} {r : Request}
    (hregistered : ((d.enter now (r.prepared fresh)).call? d.nextCall).isSome) :
    (d.request now fresh r).outbox
      = { d.outbox with queue := d.outbox.queue ++ [d.encode (r.prepared fresh).signal] } := by
  let queued : Outbox :=
    { d.outbox with queue := d.outbox.queue ++ [d.encode (r.prepared fresh).signal] }
  have hentered : (d.move (.enter now fresh r)).outbox = d.outbox :=
    d.outbox_enter now (r.prepared fresh)
  have hframe : (d.enter now (r.prepared fresh)).encode (r.prepared fresh).signal
      = d.encode (r.prepared fresh).signal :=
    congrArg (fun F : WireFormat => F.encode (.ofSignal (r.prepared fresh).signal))
      (d.format_move (.enter now fresh r))
  have hopened : (d.run (d.opening (.request now fresh r))).outbox = queued := by
    simp only [opening, if_pos hregistered]
    rw [run_cons]
    change (Dispatcher.run _ (handing (d.move (.enter now fresh r)) now d.nextCall _)).outbox = _
    rw [outbox_handing, hentered, ho.send_eq, hframe]
  have hsettled : d.request now fresh r
      = (d.run (d.opening (.request now fresh r))).settle now :=
    d.operate_opening (.request now fresh r)
  rw [hsettled, (hs.run _).outbox_settle, hopened]
  exact Outbox.expire_of_line (o := queued) ho.line now

-- ================================================================= activities

/-- What a client does: it sends a signal in one of the ways, or something else. -/
inductive Activity where
  | send (now : Nat) (x : Emission)
  | other (op : Operation)

namespace Activity

/-- Does it. -/
def start (d : Dispatcher) : Activity → Dispatcher
  | send now x => x.start d now
  | other op => d.operate op

/-- The operation that it is. -/
def operation (F : WireFormat) : Activity → Operation
  | send now x => x.operation F now
  | other op => op

/-- Every activity is an operation. -/
theorem start_eq (d : Dispatcher) (a : Activity) :
    a.start d = d.operate (a.operation d.format) := by
  cases a with
  | send now x => exact x.start_eq d now
  | other op => rfl

end Activity

/-- The client after activities, one after the other. -/
def pursue (d : Dispatcher) (activities : List Activity) : Dispatcher :=
  activities.foldl Activity.start d

/-- Activities are operations. -/
theorem Sound.pursue_eq (activities : List Activity) :
    ∀ {d : Dispatcher}, Sound d →
      d.pursue activities = d.serve (activities.map (·.operation d.format)) := by
  induction activities with
  | nil => exact fun _ => rfl
  | cons a activities ih =>
      intro d hs
      have hlater := ih (hs.operate (a.operation d.format))
      rw [hs.format_operate, ← a.start_eq] at hlater
      show (a.start d).pursue activities = _
      rw [hlater, a.start_eq]
      rfl

end Dispatcher

end DeviceTwin
