/-
Two clocks that run for one request.

The timer of a request runs from its registration, and the send timeout
from the moment at which its frame is handed over, which is the same. If
the wait for room ends first (`Config.SendsInTime`), whoever stands in
line gives up before its reply could time out. So as long as its frame is
in line, the request still waits for its reply, has it, or the table was
closed; its timer did not fire (`Punctual`). Which of the two ends comes
first depends on the time of the request too, because a clock has a last
time and the two ends may lie on both sides of it.

# How operations keep it

A sender in line is `InTime` while its timer is no earlier than the end of
its wait. Only the firing of that very timer can break this
(`InTime.move`), and timers fire in settling, where every sender whose
timer is due is sent away (`Punctual.settle`). A call that starts is in
time because both clocks start together (`inTime_enter`).
-/
import DeviceTwin.Proofs.Dispatcher.Exchange

namespace DeviceTwin

/-- Who starts a request at a time and has to wait for room gives up by the
deadline of the reply. -/
def Config.SendsInTime (config : Config) (now : Nat) : Prop :=
  ∃ until', config.sendTimeout.deadline? now = some until'
    ∧ until' ≤ config.timeout.deadline now

namespace Config

variable {config : Config} {now : Nat}

/-- If a clock can show when the reply is due this is a matter of length. -/
theorem sendsInTime_iff (hshown : now + config.timeout.nanos ≤ Clock.last) :
    config.SendsInTime now ↔ config.sendTimeout.nanos ≤ config.timeout.nanos := by
  unfold SendsInTime
  rw [Span.deadline_eq, if_pos hshown]
  constructor
  · intro h
    obtain ⟨until', hsend, hle⟩ := h
    obtain ⟨rfl, -⟩ := Span.deadline?_eq_some_iff.mp hsend
    omega
  · intro hle
    have hsum : now + config.sendTimeout.nanos ≤ now + config.timeout.nanos :=
      Nat.add_le_add_left hle now
    exact ⟨_, Span.deadline?_eq_some_iff.mpr ⟨rfl, Nat.le_trans hsum hshown⟩, hsum⟩

/-- If none can, the reply is due in thirty years, and so long the wait for room
may be. -/
theorem sendsInTime_iff_of_lt (hbeyond : Clock.last < now + config.timeout.nanos) :
    config.SendsInTime now
      ↔ now + config.sendTimeout.nanos ≤ Clock.last
        ∧ config.sendTimeout.nanos ≤ Span.thirtyYears.nanos := by
  unfold SendsInTime
  rw [Span.deadline_eq, if_neg (Nat.not_le_of_lt hbeyond)]
  constructor
  · intro h
    obtain ⟨until', hsend, hle⟩ := h
    obtain ⟨rfl, hshown⟩ := Span.deadline?_eq_some_iff.mp hsend
    exact ⟨hshown, by omega⟩
  · intro h
    exact ⟨_, Span.deadline?_eq_some_iff.mpr ⟨rfl, h.1⟩, Nat.add_le_add_left h.2 now⟩

/-- By default senders give up in time. -/
example : ({} : Config).SendsInTime 0 := (sendsInTime_iff (by decide)).mpr (by decide)

/-- Who would wait for room without an end never does. -/
example : ¬ Config.SendsInTime { timeout := .longest, sendTimeout := .longest } 0 :=
  (sendsInTime_iff_of_lt (by decide)).not.mpr (by decide)

end Config

namespace Outbox

variable {o : Outbox} {w : Waiting}

/-- Who stands in line after a frame was sent. -/
theorem mem_line_send {now sender : Nat} {f : Frame}
    (hw : w ∈ (o.send now sender f).1.line) :
    w ∈ o.line ∨ w = ⟨sender, f, o.sendTimeout.deadline? now⟩ := by
  unfold send at hw
  split at hw
  · exact .inl hw
  · split at hw
    · exact .inl hw
    · rcases List.mem_append.mp hw with hold | hnew
      · exact .inl hold
      · exact .inr (List.mem_singleton.mp hnew)

/-- Sending does not change how long senders wait. -/
theorem sendTimeout_send (o : Outbox) (now sender : Nat) (f : Frame) :
    (o.send now sender f).1.sendTimeout = o.sendTimeout := by
  unfold send
  split
  · rfl
  · split <;> rfl

theorem sendTimeout_trySend (o : Outbox) (f : Frame) :
    (o.trySend f).1.sendTimeout = o.sendTimeout := by
  unfold trySend
  split <;> rfl

/-- Whoever does not wait does not stand in line. -/
theorem line_trySend (o : Outbox) (f : Frame) :
    (o.trySend f).1.line = o.line := by
  unfold trySend
  split <;> rfl

end Outbox

namespace Dispatcher

variable {config : Config} {d : Dispatcher} {w : Outbox.Waiting} {m : Move} {id : Nat}

-- ============================================================= in the line

/-- A call that is in line has no timer that is earlier than the end of
its wait, and its reply did not time out. -/
structure InTime (d : Dispatcher) (w : Outbox.Waiting) : Prop where
  given : w.sender < d.nextCall
  unexpired : ∀ r key n, d.call? w.sender = some ⟨w.sender, .sending r key n⟩ →
    ∀ key' span, d.correlator.outcome? n ≠ some (.error (.timeout key' span))
  armed : ∀ r key n, d.call? w.sender = some ⟨w.sender, .sending r key n⟩ →
    ∀ t ∈ d.correlator.timers, t.number = n →
      ∃ until', w.deadline? = some until' ∧ until' ≤ t.deadline

/-- A call whose frame has no answer yet had none before. -/
theorem sending_move {id : Nat} {call : Call} {r : Request} {key : String}
    {n : Nat} (hid : id < d.nextCall)
    (hc : (d.move m).call? id = some call)
    (hs : call.state = .sending r key n) :
    d.call? id = some call
    ∧ (m.call? = some id → d.move m = d) := by
  by_cases hown : m.call? = some id
  · obtain heq | ⟨i, _, _, _, hc', heq⟩ | ⟨call', hc', heq | ⟨_, heq⟩⟩ :=
      d.move_about hown
    · rw [heq] at hc
      exact ⟨hc, fun _ => heq⟩
    · obtain rfl : i = id := id_of_call? hc'
      rw [heq, call?_goOn, hc', Option.map_some, Call.goOn, if_pos rfl] at hc
      rw [← Option.some.inj hc] at hs
      cases hs
    · rw [heq, call?_leave, if_pos (id_of_call? hc').symm] at hc
      cases hc
    · rw [heq, call?_finish, if_pos (id_of_call? hc').symm] at hc
      cases hc
  · rw [call?_move hid hown] at hc
    exact ⟨hc, fun h => absurd h hown⟩

/-- A sender stays in time as long as its own timer does not fire. -/
theorem InTime.move (hs : Sound d) (hw : InTime d w)
    (hm : ∀ r key n,
      d.call? w.sender = some ⟨w.sender, .sending r key n⟩ → m ≠ .fire n) :
    InTime (d.move m) w where
  given := Nat.lt_of_lt_of_le hw.given (d.nextCall_le_move m)
  unexpired r key n hc key' span hout := by
    obtain ⟨hc', hown⟩ := sending_move hw.given hc rfl
    by_cases habout : m.call? = some w.sender
    · rw [hown habout] at hout
      exact hw.unexpired r key n hc' key' span hout
    · have hor := hs.outcome?_move habout hc' (e := ⟨n, key⟩) rfl
      change (d.move m).correlator.outcome? n = _ at hor
      rw [hor] at hout
      cases ho : d.correlator.outcome? n with
      | some o =>
          rw [ho] at hout
          exact hw.unexpired r key n hc' key' span (ho.trans hout)
      | none =>
          -- nothing but its timer lets a reply time out
          rw [ho, Option.none_or] at hout
          obtain ⟨_, _, -, -, -, heq⟩ | ⟨hfire, -⟩ | ⟨-, heq⟩ :=
            Move.outcome?_cases hout
          · cases heq
          · exact hm r key n hc' hfire
          · cases heq
  armed r key n hc t ht hn := by
    obtain ⟨hc', -⟩ := sending_move hw.given hc rfl
    obtain hold | hnew := d.mem_timers_move ht
    · exact hw.armed r key n hc' t hold hn
    · -- the number was given out before
      obtain ⟨reply, hreply, -⟩ :=
        hs.exists_reply (hs.call?_eq_some.mp hc').1 (e := ⟨n, key⟩) rfl
      obtain ⟨hmem, hnumber⟩ := hs.table.reply?_eq_some.mp hreply
      have hlt := hs.table.fresh reply hmem
      change reply.number = n at hnumber
      omega

/-- So it does through a run. -/
theorem InTime.run {moves : List Move} :
    ∀ {d : Dispatcher}, Sound d → InTime d w →
      (∀ n, .fire n ∈ moves → ∀ r key,
        d.call? w.sender ≠ some ⟨w.sender, .sending r key n⟩) →
      InTime (d.run moves) w := by
  induction moves with
  | nil => exact fun _ hw _ => hw
  | cons m moves ih =>
      intro d hs hw hm
      have hnext : InTime (d.move m) w := by
        refine hw.move hs fun r key n hc heq => ?_
        exact hm n (heq ▸ List.mem_cons_self) r key hc
      refine ih (hs.move m) hnext fun n hn r key hc => ?_
      exact hm n (List.mem_cons_of_mem _ hn) r key
        (sending_move hw.given hc rfl).1

/-- A call that has just started as an emission is in time. -/
theorem inTime_emit (hs : Sound d) (f : Frame) (deadline? : Option Nat) :
    InTime (d.move .emit) ⟨d.nextCall, f, deadline?⟩ := by
  have hc : (d.move .emit).call? d.nextCall
      = some ⟨d.nextCall, .emitting⟩ := call?_enroll_self hs.given _
  refine ⟨Nat.lt_succ_self _, fun r key n hc' => ?_, fun r key n hc' => ?_⟩
  · rw [hc] at hc'
    cases hc'
  · rw [hc] at hc'
    cases hc'

/-- A request that has just started is in time, if its wait in line would
end before its reply could time out. -/
theorem inTime_enter (hs : Sound d) (now : Nat) (fresh : String)
    (r : Request) (f : Frame) {deadline? : Option Nat}
    (hin : ∃ until', deadline? = some until'
      ∧ until' ≤ d.timeout.deadline now) :
    InTime (d.move (.enter now fresh r)) ⟨d.nextCall, f, deadline?⟩ := by
  obtain ⟨key, hkey⟩ := Option.isSome_iff_exists.mp
    (r.signal.isSome_correlationId_prepared fresh)
  -- a call that is refused is not there
  have hrefused : ∀ next err, d.move (.enter now fresh r)
        = { d with correlator := { d.correlator with next } }.reject err →
      InTime (d.move (.enter now fresh r)) ⟨d.nextCall, f, deadline?⟩ := by
    intro next err heq
    have hnone : (d.move (.enter now fresh r)).call? d.nextCall = none := by
      rw [heq]
      exact Lookup.find?_eq_none_iff.mpr fun call hc =>
        Nat.ne_of_lt (hs.given call hc)
    refine ⟨?_, fun _ _ _ hc => ?_, fun _ _ _ hc => ?_⟩
    · rw [heq]
      exact Nat.lt_succ_self _
    · rw [hnone] at hc
      cases hc
    · rw [hnone] at hc
      cases hc
  obtain ⟨-, heq⟩ | ⟨-, heq⟩ | ⟨-, -, heq⟩ :=
    d.enter_cases (r := r.prepared fresh) hkey now
  · exact hrefused _ _ heq
  · exact hrefused _ _ heq
  · change d.move (.enter now fresh r) = _ at heq
    have hc : (d.move (.enter now fresh r)).call? d.nextCall
        = some ⟨d.nextCall, .sending (r.prepared fresh) key
            d.correlator.next⟩ := by
      rw [heq]
      exact call?_enroll_self (d := { d with correlator := _ }) hs.given _
    refine ⟨?_, fun r' key' n hc' => ?_, fun r' key' n hc' t ht hn => ?_⟩
    · rw [heq]
      exact Nat.lt_succ_self _
    · rw [hc] at hc'
      obtain ⟨-, rfl, rfl⟩ := CallState.sending.inj
        (congrArg Call.state (Option.some.inj hc'))
      rw [heq]
      show ∀ _ _, (d.correlator.register now key d.timeout).outcome?
        d.correlator.next ≠ _
      rw [Correlator.outcome?, hs.table.reply?_register, if_pos rfl]
      intro err stale hnone
      cases hnone
    · rw [hc] at hc'
      obtain ⟨-, rfl, rfl⟩ := CallState.sending.inj
        (congrArg Call.state (Option.some.inj hc'))
      rw [heq] at ht
      rcases List.mem_append.mp ht with hold | hnew
      · -- every older timer has a number that was given out before
        obtain ⟨reply, hreply, -, hentry⟩ :=
          hs.table.mem_entries.mp (hs.table.timer_mem hold)
        have hlt := hs.table.fresh reply hreply
        have hnumber := congrArg Correlator.Entry.number hentry
        change reply.number = t.number at hnumber
        omega
      · rw [List.mem_singleton.mp hnew]
        exact hin

-- ================================================================ operations

/-- The call with a number is in time whenever it is in line, in a client with
these settings. -/
structure Punctual (config : Config) (id : Nat) (d : Dispatcher) : Prop where
  sendTimeout : d.outbox.sendTimeout = config.sendTimeout
  timeout : d.timeout = config.timeout
  line : ∀ w ∈ d.outbox.line, w.sender = id → InTime d w

/-- A client starts with nobody in line. -/
theorem punctual_ofConfig (config : Config) (id : Nat) : Punctual config id (ofConfig config) where
  sendTimeout := rfl
  timeout := rfl
  line := by simp [ofConfig]

/-- If an operation starts the call with a number as a request, it does so at a
time from which on the call gives up in time. -/
def Operation.Timely (config : Config) (id : Nat) (d : Dispatcher) (op : Operation) : Prop :=
  ∀ now fresh r, op = .request now fresh r → d.nextCall = id → config.SendsInTime now

/-- After settling the transport is rid of those who waited too long. -/
theorem Sound.outbox_settle (hs : Sound d) (now : Nat) :
    (d.settle now).outbox = (d.outbox.expire now).1 := by
  have hpolls : ∀ m ∈ (d.run (d.due now)).calls.map fun call => Move.poll call.id,
      ∀ outbox, m ≠ .transport outbox := by
    simp
  have hanswers : ∀ m ∈ answers (d.outbox.expire now).2,
      ∀ outbox, m ≠ .transport outbox := by
    rintro m hm outbox rfl
    simp [answers] at hm
  rw [hs.settle_eq_run, settling, run_append, outbox_run _ _ hpolls, due,
    run_append, run_cons, outbox_run _ _ hanswers]
  rfl

/-- The timers that fire in settling are due. -/
theorem fire_mem_settling {now n : Nat} (hm : .fire n ∈ d.settling now) :
    ∃ t ∈ d.correlator.timers, t.deadline ≤ now ∧ t.number = n := by
  simpa [settling, due, answers, and_assoc] using hm

/-- Whoever is in line after settling is in time: if its timer was due,
its wait was over too. -/
theorem Punctual.settle (hs : Sound d) (hp : Punctual config id d) (now : Nat) :
    Punctual config id (d.settle now) := by
  have hrun := hs.settle_eq_run now
  refine ⟨?_, ?_, fun w hw hid => ?_⟩
  · rw [hs.outbox_settle]
    exact hp.sendTimeout
  · rw [hrun, timeout_run]
    exact hp.timeout
  · rw [hs.outbox_settle] at hw
    obtain ⟨hline, hwaits⟩ := List.mem_filter.mp hw
    have hin := hp.line w hline hid
    rw [hrun]
    refine hin.run hs fun n hn r key hc => ?_
    obtain ⟨t, ht, hdue, rfl⟩ := fire_mem_settling hn
    obtain ⟨until', hdeadline, hle⟩ := hin.armed r key _ hc t ht rfl
    have hover : w.isDue now = true := by
      simp [Outbox.Waiting.isDue, hdeadline, Nat.le_trans hle hdue]
    rw [hover] at hwaits
    cases hwaits

/-- Nothing fires before an operation settles. -/
theorem fire_not_mem_opening (d : Dispatcher) (op : Operation) (n : Nat) :
    .fire n ∉ d.opening op := by
  cases op with
  | request now fresh r =>
      simp only [opening]
      split <;> simp [handing]
  | emitFrame | cancel | inbound | receive | disconnect | trySend | shutdown
  | settle => simp [opening, handing, answers]

/-- A run in which nothing fires keeps everybody in time who was it at its start. -/
theorem Punctual.run (hs : Sound d) (hp : Punctual config id d) {moves : List Move}
    (hfire : ∀ n, .fire n ∉ moves)
    (hsend : (d.run moves).outbox.sendTimeout = d.outbox.sendTimeout)
    (hline : ∀ w ∈ (d.run moves).outbox.line, w.sender = id → InTime d w) :
    Punctual config id (d.run moves) where
  sendTimeout := hsend.trans hp.sendTimeout
  timeout := (d.timeout_run moves).trans hp.timeout
  line w hw hid := (hline w hw hid).run hs fun n hn => absurd hn (hfire n)

/-- What the transport is after it changed and answered. -/
theorem outbox_run_transport (d : Dispatcher) (outbox : Outbox)
    {moves : List Move} (hm : ∀ m ∈ moves, ∃ id a, m = .answer id a) :
    (d.run (.transport outbox :: moves)).outbox = outbox := by
  rw [run_cons, outbox_run]
  · rfl
  · intro m hmem outbox' heq
    obtain ⟨id, a, rfl⟩ := hm m hmem
    cases heq

/-- Handing a frame over does to the transport what sending does. -/
theorem outbox_handing (d : Dispatcher) (now id : Nat) (f : Frame) :
    (d.run (d.handing now id f)).outbox = (d.outbox.send now id f).1 := by
  refine d.outbox_run_transport _ fun m hm => ?_
  obtain ⟨a, -, rfl⟩ := List.mem_map.mp hm
  exact ⟨id, a, rfl⟩

/-- Verdicts change nothing of the transport that gave them. -/
theorem outbox_verdicts (d : Dispatcher) (outbox : Outbox)
    (verdicts : List Outbox.Verdict) :
    (d.run (.transport outbox :: answers verdicts)).outbox = outbox := by
  refine d.outbox_run_transport _ fun m hm => ?_
  obtain ⟨v, -, rfl⟩ := List.mem_map.mp hm
  exact ⟨v.1, v.2, rfl⟩

/-- A call that has just started may hand its frame over. -/
theorem Punctual.handing (hs : Sound d) (hp : Punctual config id d) {now sender : Nat}
    {f : Frame}
    (hin : sender = id → InTime d ⟨sender, f, d.outbox.sendTimeout.deadline? now⟩) :
    Punctual config id (d.run (d.handing now sender f)) := by
  refine hp.run hs (by simp [Dispatcher.handing]) ?_ fun w hw hid => ?_
  · rw [outbox_handing, Outbox.sendTimeout_send]
  · rw [outbox_handing] at hw
    obtain hold | rfl := Outbox.mem_line_send hw
    · exact hp.line w hold hid
    · exact hin hid

/-- A call may start. -/
theorem Punctual.start (hs : Sound d) (hp : Punctual config id d)
    (hm : (∃ now fresh r, m = .enter now fresh r) ∨ m = .emit) :
    Punctual config id (d.move m) := by
  have hsame : (d.move m).outbox = d.outbox := by
    refine d.outbox_move fun outbox heq => ?_
    obtain ⟨_, _, _, rfl⟩ | rfl := hm <;> cases heq
  show Punctual config id (d.run [m])
  refine hp.run hs (fun n hn => ?_) ?_ fun w hw => ?_
  · obtain rfl := List.mem_singleton.mp hn
    obtain ⟨_, _, _, heq⟩ | heq := hm <;> cases heq
  · exact congrArg Outbox.sendTimeout hsame
  · exact hp.line w (hsame ▸ hw)

/-- A request that starts at a time from which on it gives up in time is in time. -/
theorem Punctual.inTime_enter (hs : Sound d) (hp : Punctual config d.nextCall d) {now : Nat}
    (hin : config.SendsInTime now) (fresh : String) (r : Request) (f : Frame) :
    InTime (d.move (.enter now fresh r))
      ⟨d.nextCall, f, d.outbox.sendTimeout.deadline? now⟩ := by
  rw [Config.SendsInTime, ← hp.sendTimeout, ← hp.timeout] at hin
  exact Dispatcher.inTime_enter hs now fresh r f hin

/-- The call is in time before an operation settles. -/
theorem Punctual.opening (hs : Sound d) (hp : Punctual config id d) {op : Operation}
    (hop : op.Timely config id d) : Punctual config id (d.run (d.opening op)) := by
  have hfire := d.fire_not_mem_opening op
  cases op with
  | request now fresh r =>
      have hentered := hp.start hs (m := .enter now fresh r)
        (.inl ⟨now, fresh, r, rfl⟩)
      have hsame : (d.move (.enter now fresh r)).outbox = d.outbox :=
        d.outbox_enter now (r.prepared fresh)
      rw [Dispatcher.opening, run_cons]
      split
      · refine hentered.handing (hs.move _) fun hid => ?_
        have htimely := hop now fresh r rfl hid
        subst hid
        rw [hsame]
        exact hp.inTime_enter hs htimely fresh r _
      · exact hentered
  | emitFrame now f =>
      have hentered := hp.start hs (m := .emit) (.inr rfl)
      exact hentered.handing (hs.move .emit) fun _ => inTime_emit hs f _
  | cancel now id' =>
      refine hp.run hs hfire rfl fun w hw => ?_
      exact hp.line w (List.mem_of_mem_filter hw)
  | inbound now f =>
      have hsame : (d.move (.take f)).outbox = d.outbox :=
        d.outbox_move fun now hsend => by cases hsend
      refine hp.run hs hfire (congrArg _ hsame) fun w hw => ?_
      exact hp.line w (hsame ▸ hw)
  | receive now n =>
      have hsame := d.outbox_verdicts (d.outbox.receive n).1
        (d.outbox.receive n).2.2
      have hsend := congrArg Outbox.sendTimeout hsame
      refine hp.run hs hfire hsend fun w hw => ?_
      rw [Dispatcher.opening, hsame] at hw
      exact hp.line w (List.mem_of_mem_drop hw)
  | disconnect now =>
      have hsame := d.outbox_verdicts d.outbox.disconnect.1
        d.outbox.disconnect.2
      have hsend := congrArg Outbox.sendTimeout hsame
      refine hp.run hs hfire hsend fun w hw => ?_
      rw [Dispatcher.opening, hsame] at hw
      cases hw
  | trySend f =>
      refine hp.run hs hfire (d.outbox.sendTimeout_trySend f) fun w hw => ?_
      exact hp.line w (d.outbox.line_trySend f ▸ hw)
  | shutdown now | settle now =>
      exact hp.run hs hfire rfl hp.line

/-- Every operation keeps the call in time. -/
theorem Punctual.operate (hs : Sound d) (hp : Punctual config id d) {op : Operation}
    (hop : op.Timely config id d) : Punctual config id (d.operate op) := by
  have hopened := hp.opening hs hop
  rw [operate_opening]
  cases op.now? with
  | none => exact hopened
  | some now => exact hopened.settle (hs.run _) now

end Dispatcher

end DeviceTwin
