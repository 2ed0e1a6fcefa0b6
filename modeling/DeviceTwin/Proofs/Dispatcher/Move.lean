/-
What can happen to the calls of a client.

A `Move` is one thing that happens: a request or an emission starts, the
transport answers for a frame, an inbound frame is taken in, a timer
fires, a call looks at its reply, a call is cancelled, the table is
closed. The moves are the small steps that the operations of the client
are made of, and a run is any list of them.

What the transport does inside is left open: it may become anything at
any time (`Move.transport`), and answer for any call whenever it likes.
The clock is left open too, as a timer may fire at any time, and so is
the order in which calls get to look at their replies. What holds of
these runs holds of every transport, every clock and every scheduler.
-/
import DeviceTwin.Client.Dispatcher
import DeviceTwin.Proofs.Correlator.Run

namespace DeviceTwin.Dispatcher

-- ==================================================================== moves

/-- What can happen to the calls of a client, one thing at a time. -/
inductive Move where
  /-- A request starts. It gets `fresh` as its correlation id if it has
  none. -/
  | enter (now : Nat) (fresh : String) (request : Request)
  /-- An emission starts. -/
  | emit
  /-- The transport changes inside. -/
  | transport (outbox : Outbox)
  /-- The transport answers for the frame of a call. -/
  | answer (id : Nat) (a : Outbox.Answer)
  /-- An inbound frame is taken in. -/
  | take (f : Frame)
  /-- The timer that is armed for a number fires. -/
  | fire (number : Nat)
  /-- A call looks at its reply. -/
  | poll (id : Nat)
  /-- A call is cancelled. -/
  | drop (id : Nat)
  /-- Every subscription ends, and no more are admitted. -/
  | close

/-- The call that a move is about, if it is about one that has started. -/
def Move.call? : Move → Option Nat
  | answer id _ | poll id | drop id => some id
  | enter .. | emit | transport _ | take _ | fire _ | close => none

/-- What a move does to the table by itself, without a call. -/
def Move.op? : Move → Option (Correlator.Op Envelope)
  | take f =>
      match f.decode with
      | .ok envelope => some (.publish envelope.correlationId envelope)
      | .error _ => none
  | fire n => some (.fire n)
  | close => some .close
  | enter .. | emit | transport _ | answer .. | poll _ | drop _ => none

/-- One move. -/
def move (d : Dispatcher) : Move → Dispatcher
  | .enter now fresh r => d.enter now (r.prepared fresh)
  | .emit => d.enroll .emitting
  | .transport outbox => { d with outbox }
  | .answer id a => d.answer id a
  | .take f => (d.take f).1
  | .fire n =>
      { d with correlator := (d.correlator.step (.fire n)).1 }
  | .poll id => d.poll id
  | .drop id => d.drop id
  | .close => { d with correlator := d.correlator.close.1 }

/-- The client after a run of moves. -/
def run (d : Dispatcher) (moves : List Move) : Dispatcher :=
  moves.foldl move d

/-- A longer run is the later moves after the earlier ones. -/
theorem run_append (d : Dispatcher) (moves later : List Move) :
    d.run (moves ++ later) = (d.run moves).run later := List.foldl_append

/-- A run is its first move and then the rest. -/
theorem run_cons (d : Dispatcher) (m : Move) (moves : List Move) :
    d.run (m :: moves) = (d.move m).run moves := rfl

-- ========================================================== moves of a call

section Equations

variable {d : Dispatcher} {id : Nat}

/-- A move about a call that is not there does nothing. -/
theorem answer_none (h : d.call? id = none) (a : Outbox.Answer) :
    d.answer id a = d := by
  simp only [answer, h]

theorem poll_none (h : d.call? id = none) : d.poll id = d := by
  simp only [poll, h]

theorem drop_none (h : d.call? id = none) : d.drop id = d := by
  simp only [drop, h]

/-- A call that is cancelled leaves. -/
theorem drop_some {call : Call} (h : d.call? id = some call) :
    d.drop id = d.leave call := by
  simp only [drop, h]

section Request

variable {i : Nat} {r : Request} {key : String} {n : Nat}

/-- A request whose frame is accepted waits. -/
theorem answer_ok (h : d.call? id = some ⟨i, .sending r key n⟩) :
    d.answer id (.ok ()) = d.goOn id (.waiting r key n) := by
  simp only [answer, h]

/-- A request whose frame is not accepted ends with the reason. It gives
its subscription up before it lets go of its reply, which is the same as
letting go of the reply. -/
theorem answer_error (h : d.call? id = some ⟨i, .sending r key n⟩)
    (e : TransportError) :
    d.answer id (.error e)
      = d.finish ⟨i, .sending r key n⟩ (.error (.transport e)) := by
  simp only [answer, h, finish, leave, CallState.subscription?,
    Correlator.release_unsubscribe]

/-- An answer for a request whose frame was accepted before does nothing. -/
theorem answer_waiting (h : d.call? id = some ⟨i, .waiting r key n⟩)
    (a : Outbox.Answer) : d.answer id a = d := by
  simp only [answer, h]

/-- A request whose frame is not accepted yet does not look at its
reply. -/
theorem poll_sending (h : d.call? id = some ⟨i, .sending r key n⟩) :
    d.poll id = d := by
  simp only [poll, h]

/-- A request whose reply is still open waits on. -/
theorem poll_open (h : d.call? id = some ⟨i, .waiting r key n⟩)
    (ho : d.correlator.outcome? n = none) : d.poll id = d := by
  simp only [poll, h, ho]

/-- A request that waits ends with the outcome of its reply. -/
theorem poll_ended (h : d.call? id = some ⟨i, .waiting r key n⟩)
    {o : Outcome Envelope} (ho : d.correlator.outcome? n = some o) :
    d.poll id
      = d.finish ⟨i, .waiting r key n⟩ ((r.conclude o).map some) := by
  simp only [poll, h, ho]

end Request

end Equations

-- ================================================================= changes

/-- What becomes of the calls in a move about a call, or about none, that
does nothing to the table by itself. -/
inductive Change (d : Dispatcher) (about : Option Nat) : Dispatcher → Prop
  | stays : Change d about d
  | carries (outbox : Outbox) : Change d about { d with outbox }
  /-- A call ends as it starts; at most the number of a subscription is
  lost. -/
  | rejects {next : Nat} (hnext : d.correlator.next ≤ next)
      (e : CallError) :
      Change d about
        ({ d with correlator := { d.correlator with next } }.reject e)
  /-- An emission starts. -/
  | emits : Change d about (d.enroll .emitting)
  /-- A request starts, and its subscription is admitted. -/
  | admits (now : Nat) (r : Request) {key : String}
      (hopen : d.correlator.closed = false)
      (hfree : d.correlator.isPending key = false) :
      Change d about
        ({ d with correlator := d.correlator.register now key d.timeout }.enroll
          (.sending r key d.correlator.next))
  /-- A request goes on. -/
  | goesOn {id i : Nat} {r : Request} {key : String} {n : Nat}
      (habout : about = some id)
      (hc : d.call? id = some ⟨i, .sending r key n⟩) :
      Change d about (d.goOn id (.waiting r key n))
  /-- A call is gone. -/
  | leaves {id : Nat} {call : Call} (habout : about = some id)
      (hc : d.call? id = some call) : Change d about (d.leave call)
  /-- A call ends. -/
  | ends {id : Nat} {call : Call} (habout : about = some id)
      (hc : d.call? id = some call) (result : CallResult) :
      Change d about (d.finish call result)

/-- A request that starts is rejected or admitted. -/
theorem enter_change (d : Dispatcher) (now : Nat) (r : Request) :
    Change d none (d.enter now r) := by
  unfold enter
  cases r.signal.correlationId with
  | none => exact .rejects (Nat.le_refl _) _
  | some key =>
      obtain ⟨-, hs⟩ | ⟨-, hs⟩ | ⟨hopen, hfree, hs⟩ :=
        d.correlator.subscribe_cases now key d.timeout
      · simp only [hs]
        exact .rejects (Nat.le_refl _) _
      · simp only [hs]
        exact .rejects (Nat.le_succ _) _
      · simp only [hs]
        exact .admits now r hopen hfree

/-- What can become of a request as it starts: the table is closed, its
correlation id is taken, or it is registered. -/
theorem enter_cases (d : Dispatcher) {r : Request} {key : String}
    (hkey : r.signal.correlationId = some key) (now : Nat) :
    (d.correlator.closed = true ∧ d.enter now r = d.reject .closed)
    ∨ (d.correlator.isPending key = true
        ∧ d.enter now r
          = { d with correlator :=
                { d.correlator with next := d.correlator.next + 1 } }.reject
              (.alreadyPending key))
    ∨ (d.correlator.closed = false ∧ d.correlator.isPending key = false
        ∧ d.enter now r
          = { d with correlator :=
                d.correlator.register now key d.timeout }.enroll
              (.sending r key d.correlator.next)) := by
  unfold enter
  obtain ⟨hclosed, hs⟩ | ⟨hpending, hs⟩ | ⟨hopen, hfree, hs⟩ :=
    d.correlator.subscribe_cases now key d.timeout
  · refine .inl ⟨hclosed, ?_⟩
    simp only [hkey, hs]
    rfl
  · refine .inr (.inl ⟨hpending, ?_⟩)
    simp only [hkey, hs]
    rfl
  · refine .inr (.inr ⟨hopen, hfree, ?_⟩)
    simp only [hkey, hs]
    rfl

/-- An answer ends an emission, and lets a request go on or ends it. -/
theorem answer_change (d : Dispatcher) (id : Nat) (a : Outbox.Answer) :
    Change d (some id) (d.answer id a) := by
  cases h : d.call? id with
  | none =>
      rw [answer_none h]
      exact .stays
  | some call =>
      obtain ⟨i, state⟩ := call
      cases state with
      | emitting =>
          simp only [answer, h]
          exact .ends rfl h _
      | sending r key n =>
          cases a with
          | ok u =>
              rw [answer_ok h]
              exact .goesOn rfl h
          | error e =>
              rw [answer_error h]
              exact .ends rfl h _
      | waiting r key n =>
          rw [answer_waiting h]
          exact .stays

/-- What a look at its reply comes to: nothing, or the end of the call. -/
theorem poll_cases (d : Dispatcher) (id : Nat) :
    d.poll id = d
    ∨ ∃ call result, d.call? id = some call
        ∧ d.poll id = d.finish call result := by
  cases h : d.call? id with
  | none => exact .inl (poll_none h)
  | some call =>
      obtain ⟨i, state⟩ := call
      cases state with
      | emitting =>
          left
          simp only [poll, h]
      | sending r key n => exact .inl (poll_sending h)
      | waiting r key n =>
          cases ho : d.correlator.outcome? n with
          | none => exact .inl (poll_open h ho)
          | some o => exact .inr ⟨_, _, rfl, poll_ended h ho⟩

/-- A look at a reply is a change of the call that looks. -/
theorem poll_change (d : Dispatcher) (id : Nat) :
    Change d (some id) (d.poll id) := by
  obtain heq | ⟨call, result, hc, heq⟩ := d.poll_cases id
  · rw [heq]
    exact .stays
  · rw [heq]
    exact .ends rfl hc result

/-- A call that is cancelled is gone. -/
theorem drop_change (d : Dispatcher) (id : Nat) :
    Change d (some id) (d.drop id) := by
  cases h : d.call? id with
  | none =>
      rw [drop_none h]
      exact .stays
  | some call =>
      rw [drop_some h]
      exact .leaves rfl h

/-- What moves can do to the table by themselves: publish the envelope of
a frame, fire a timer, close. -/
theorem Move.op?_cases {m : Move} {op : Correlator.Op Envelope}
    (hop : m.op? = some op) :
    (∃ f envelope, m = .take f ∧ f.decode = .ok envelope
      ∧ op = .publish envelope.correlationId envelope)
    ∨ (∃ n, m = .fire n ∧ op = .fire n)
    ∨ m = .close ∧ op = .close := by
  cases m with
  | take f =>
      left
      cases hf : f.decode with
      | error e => simp [op?, hf] at hop
      | ok envelope =>
          exact ⟨f, envelope, rfl, hf, by simpa [op?, hf] using hop.symm⟩
  | fire n => exact .inr (.inl ⟨n, rfl, (Option.some.inj hop).symm⟩)
  | close => exact .inr (.inr ⟨rfl, (Option.some.inj hop).symm⟩)
  | enter | emit | transport | answer | poll | drop => cases hop

/-- A move that does something to the table by itself does that. -/
theorem move_op (d : Dispatcher) {m : Move} {op : Correlator.Op Envelope}
    (hop : m.op? = some op) :
    d.move m = { d with correlator := (d.correlator.step op).1 } := by
  obtain ⟨f, envelope, rfl, hf, rfl⟩ | ⟨n, rfl, rfl⟩ | ⟨rfl, rfl⟩ :=
    Move.op?_cases hop
  · simp only [move, take, hf]
    rfl
  · rfl
  · rfl

/-- No move releases a reply by itself: that is left to the calls. -/
theorem Move.op?_ne_release {m : Move} {op : Correlator.Op Envelope}
    (hop : m.op? = some op) (n : Nat) : op ≠ .release n := by
  obtain ⟨f, envelope, -, -, rfl⟩ | ⟨n, -, rfl⟩ | ⟨-, rfl⟩ :=
    op?_cases hop <;> simp

/-- What a move does to the table by itself registers and releases nothing. -/
theorem Move.settles {m : Move} {op : Correlator.Op Envelope}
    (hop : m.op? = some op) (c : Correlator Envelope) :
    Correlator.Settles c (c.step op).1 := by
  refine .step c (fun now key span => ?_) (op?_ne_release hop)
  obtain ⟨f, envelope, -, -, rfl⟩ | ⟨n, -, rfl⟩ | ⟨-, rfl⟩ :=
    op?_cases hop <;> simp

/-- Any other move is a change. -/
theorem move_change (d : Dispatcher) {m : Move} (hop : m.op? = none) :
    Change d m.call? (d.move m) := by
  cases m with
  | enter now fresh r => exact d.enter_change now (r.prepared fresh)
  | emit => exact .emits
  | transport outbox => exact .carries outbox
  | answer id a => exact d.answer_change id a
  | take f =>
      cases hf : f.decode with
      | ok envelope => simp [Move.op?, hf] at hop
      | error e =>
          simp only [move, take, hf]
          exact .stays
  | fire n => cases hop
  | poll id => exact d.poll_change id
  | drop id => exact d.drop_change id
  | close => cases hop

-- ==================================================== what is new in the table

/-- A call that leaves takes at most its own reply and its subscription along. -/
theorem shrinks_leave (d : Dispatcher) (call : Call) :
    Correlator.Shrinks d.correlator (d.leave call).correlator := by
  unfold leave
  split
  · exact .release ..
  · exact .refl _

/-- A change brings nothing new to the table, but perhaps one subscription
under the next number. -/
theorem Change.table {d d' : Dispatcher} {about : Option Nat}
    (hd : Change d about d') :
    Correlator.Shrinks d.correlator d'.correlator
    ∨ ∃ now key, d'.correlator = d.correlator.register now key d.timeout := by
  cases hd with
  | stays | carries | emits | goesOn => exact .inl (.refl _)
  | rejects hnext =>
      exact .inl ⟨List.Subset.refl _, List.Subset.refl _,
        List.Subset.refl _, hnext⟩
  | admits now r => exact .inr ⟨now, _, rfl⟩
  | leaves habout hc => exact .inl (d.shrinks_leave _)
  | ends habout hc result => exact .inl (d.shrinks_leave _)

/-- No move brings anything new to the table, but perhaps one subscription under the
next number. -/
theorem table_move (d : Dispatcher) (m : Move) :
    Correlator.Shrinks d.correlator (d.move m).correlator
    ∨ ∃ now key, (d.move m).correlator
        = d.correlator.register now key d.timeout := by
  cases hop : m.op? with
  | some op =>
      rw [d.move_op hop]
      exact .inl (.of_settles (Move.settles hop d.correlator))
  | none => exact (d.move_change hop).table

/-- Numbers of subscriptions only grow. -/
theorem next_le_move (d : Dispatcher) (m : Move) :
    d.correlator.next ≤ (d.move m).correlator.next := by
  obtain h | ⟨now, key, h⟩ := d.table_move m
  · exact h.next
  · rw [h]
    exact Nat.le_succ _

/-- A reply that is there after a move was there before, or has the number that was
next. -/
theorem number_of_mem_move (d : Dispatcher) {m : Move}
    {r : Correlator.Reply Envelope} (hr : r ∈ (d.move m).correlator.replies) :
    (∃ r' ∈ d.correlator.replies, r'.number = r.number)
    ∨ r.number = d.correlator.next := by
  obtain h | ⟨now, key, h⟩ := d.table_move m
  · exact .inl (List.mem_map.mp (h.replies (List.mem_map_of_mem hr)))
  · rw [h] at hr
    rcases List.mem_append.mp hr with hold | hnew
    · exact .inl ⟨r, hold, rfl⟩
    · rw [List.mem_singleton.mp hnew]
      exact .inr rfl

/-- And so has a timer. -/
theorem mem_timers_move (d : Dispatcher) {m : Move} {t : Correlator.Timer}
    (ht : t ∈ (d.move m).correlator.timers) :
    t ∈ d.correlator.timers ∨ t.number = d.correlator.next := by
  obtain h | ⟨now, key, h⟩ := d.table_move m
  · exact .inl (h.timers ht)
  · rw [h] at ht
    rcases List.mem_append.mp ht with hold | hnew
    · exact .inl hold
    · rw [List.mem_singleton.mp hnew]
      exact .inr rfl

-- ======================================================= moves about a call

/-- What a move about a call comes to: nothing, the call goes on, or the
call is gone, with a result or without one. -/
theorem move_about (d : Dispatcher) {m : Move} {id : Nat}
    (hm : m.call? = some id) :
    d.move m = d
    ∨ (∃ i r key n, d.call? id = some ⟨i, .sending r key n⟩
        ∧ d.move m = d.goOn id (.waiting r key n))
    ∨ ∃ call, d.call? id = some call
        ∧ (d.move m = d.leave call ∨ ∃ result, d.move m = d.finish call result) := by
  cases m with
  | answer i a =>
      obtain rfl : i = id := Option.some.inj hm
      show d.answer i a = d ∨ _
      cases hc : d.call? i with
      | none => exact .inl (answer_none hc a)
      | some call =>
          obtain ⟨j, state⟩ := call
          cases state with
          | emitting =>
              refine .inr (.inr ⟨_, rfl, .inr ⟨(a.mapError .transport).map fun _ => none, ?_⟩⟩)
              simp only [move, answer, hc]
          | sending r key n =>
              cases a with
              | ok u => exact .inr (.inl ⟨_, _, _, _, rfl, answer_ok hc⟩)
              | error e => exact .inr (.inr ⟨_, rfl, .inr ⟨_, answer_error hc e⟩⟩)
          | waiting r key n => exact .inl (answer_waiting hc a)
  | poll i =>
      obtain rfl : i = id := Option.some.inj hm
      obtain heq | ⟨call, result, hc, heq⟩ := d.poll_cases i
      · exact .inl heq
      · exact .inr (.inr ⟨call, hc, .inr ⟨result, heq⟩⟩)
  | drop i =>
      obtain rfl : i = id := Option.some.inj hm
      cases hc : d.call? i with
      | none => exact .inl (drop_none hc)
      | some call => exact .inr (.inr ⟨call, rfl, .inl (drop_some hc)⟩)
  | enter | emit | transport | take | fire | close => cases hm

/-- A move about a call that is not there does nothing. -/
theorem move_gone (d : Dispatcher) {m : Move} {id : Nat}
    (hm : m.call? = some id) (hc : d.call? id = none) : d.move m = d := by
  obtain heq | ⟨_, _, _, _, hc', -⟩ | ⟨_, hc', -⟩ := d.move_about hm
  · exact heq
  · rw [hc] at hc'
    cases hc'
  · rw [hc] at hc'
    cases hc'

-- ============================================================ the transport

/-- A request that starts leaves the transport alone. -/
theorem outbox_enter (d : Dispatcher) (now : Nat) (r : Request) :
    (d.enter now r).outbox = d.outbox := by
  unfold enter
  cases r.signal.correlationId with
  | none => rfl
  | some key =>
      obtain ⟨-, hs⟩ | ⟨-, hs⟩ | ⟨-, -, hs⟩ :=
        d.correlator.subscribe_cases now key d.timeout
      all_goals
        simp only [hs]
        rfl

/-- So does every move about a call. -/
theorem outbox_about (d : Dispatcher) {m : Move} {id : Nat}
    (hm : m.call? = some id) : (d.move m).outbox = d.outbox := by
  obtain heq | ⟨_, _, _, _, -, heq⟩ | ⟨_, -, heq | ⟨_, heq⟩⟩ := d.move_about hm
  · rw [heq]
  · rw [heq]
    rfl
  · rw [heq]
    rfl
  · rw [heq]
    rfl

/-- Only the transport changes inside the transport. -/
theorem outbox_move (d : Dispatcher) {m : Move}
    (hm : ∀ outbox, m ≠ .transport outbox) : (d.move m).outbox = d.outbox := by
  cases hop : m.op? with
  | some op => rw [d.move_op hop]
  | none =>
      cases m with
      | transport outbox => exact absurd rfl (hm outbox)
      | enter now fresh r => exact d.outbox_enter now (r.prepared fresh)
      | emit => rfl
      | take f => cases hf : f.decode <;> simp only [move, take, hf]
      | answer id a => exact d.outbox_about (m := .answer id a) rfl
      | poll id => exact d.outbox_about (m := .poll id) rfl
      | drop id => exact d.outbox_about (m := .drop id) rfl
      | fire | close => cases hop

/-- A run in which the transport does nothing leaves it as it was. -/
theorem outbox_run (moves : List Move) :
    ∀ d : Dispatcher, (∀ m ∈ moves, ∀ outbox, m ≠ .transport outbox) →
      (d.run moves).outbox = d.outbox := by
  induction moves with
  | nil => exact fun _ _ => rfl
  | cons m moves ih =>
      intro d hm
      rw [run_cons, ih (d.move m) fun m' hm' => hm m' (List.mem_cons_of_mem _ hm'),
        d.outbox_move (hm m List.mem_cons_self)]

end DeviceTwin.Dispatcher
