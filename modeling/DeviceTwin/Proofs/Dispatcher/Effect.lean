/-
What a move does to one call.

A move that is about another call, or about none, leaves a call where it
stands (`call?_move`, `result?_move`), and does to the outcome of its
reply what it would do if there were no other calls at all
(`Sound.outcome?_move`): it gives the reply the outcome that it has for
it (`Move.outcome?`), unless the reply has one already. For this the
calls and the table of replies have to agree: a call that ends lets go
of a reply, and that must not be the reply of somebody else.
-/
import DeviceTwin.Proofs.Dispatcher.Sound

namespace DeviceTwin.Dispatcher

variable {d : Dispatcher} {id : Nat} {m : Move}

-- =========================================================== where it stands

/-- A call that starts does not stand in the place of another. -/
theorem call?_enroll (hid : id < d.nextCall) (state : CallState) :
    (d.enroll state).call? id = d.call? id :=
  Lookup.find?_concat_ne (Nat.ne_of_lt hid).symm

/-- A call that starts stands where it starts. -/
theorem call?_enroll_self (hgiven : ∀ call ∈ d.calls, call.id < d.nextCall)
    (state : CallState) :
    (d.enroll state).call? d.nextCall = some ⟨d.nextCall, state⟩ :=
  Lookup.find?_concat_self (x := Call.mk d.nextCall state)
    fun call hc => Nat.ne_of_lt (hgiven call hc)

/-- A call that is refused does not take another's result. -/
theorem result?_reject (hid : id < d.nextCall) (e : CallError) :
    (d.reject e).result? id = d.result? id :=
  congrArg (Option.map Prod.snd)
    (Lookup.find?_concat_ne (Nat.ne_of_lt hid).symm)

/-- A call that goes on is where it goes, and every other where it was. -/
theorem call?_goOn (d : Dispatcher) (id' : Nat) (state : CallState) :
    (d.goOn id' state).call? id
      = (d.call? id).map (Call.goOn id' state) :=
  Lookup.find?_map (fun call => call.goOn_id id' state) id

/-- A call that is not the one that goes on stays where it was. -/
theorem call?_goOn_of_ne {id' : Nat} (hne : id ≠ id') (state : CallState) :
    (d.goOn id' state).call? id = d.call? id := by
  rw [call?_goOn]
  cases hc : d.call? id with
  | none => rfl
  | some call =>
      have hid : call.id = id := by simpa using List.find?_some hc
      rw [Option.map_some, Call.goOn, if_neg (hid ▸ hne)]

/-- A call that leaves is gone, and no other. -/
theorem call?_leave (d : Dispatcher) (call : Call) :
    (d.leave call).call? id = if id = call.id then none else d.call? id :=
  Lookup.find?_filter_ne call.id id

/-- So is a call that ends. -/
theorem call?_finish (d : Dispatcher) (call : Call) (result : CallResult) :
    (d.finish call result).call? id
      = if id = call.id then none else d.call? id :=
  d.call?_leave call

/-- A call that ends has its result, and no other gets it. -/
theorem result?_finish_of_ne {call : Call} (hne : id ≠ call.id)
    (result : CallResult) :
    (d.finish call result).result? id = d.result? id :=
  congrArg (Option.map Prod.snd) (Lookup.find?_concat_ne hne.symm)

/-- A call that ends has the result it ends with. -/
theorem Sound.result?_finish (h : Sound d) {call : Call}
    (hc : call ∈ d.calls) (result : CallResult) :
    (d.finish call result).result? call.id = some result :=
  congrArg (Option.map Prod.snd)
    (Lookup.find?_concat_self (x := (call.id, result)) (h.apart call hc))

/-- A call stands under its own number. -/
theorem id_of_call? {call : Call} (h : d.call? id = some call) :
    call.id = id := by
  simpa using List.find?_some h

/-- What is about a call is not about another. -/
theorem ne_of_about {about : Option Nat} {id' : Nat}
    (habout : about ≠ some id) (hid : about = some id') : id ≠ id' := by
  rintro rfl
  exact habout hid

/-- A change about another call, or about none, leaves a call where it
stands. -/
theorem Change.call? {about : Option Nat} {d' : Dispatcher}
    (hd : Change d about d') (hid : id < d.nextCall)
    (habout : about ≠ some id) : d'.call? id = d.call? id := by
  cases hd with
  | stays => rfl
  | carries outbox => rfl
  | rejects hnext e => rfl
  | emits => exact call?_enroll hid _
  | admits now r hopen hfree =>
      exact call?_enroll (d := { d with correlator := _ }) hid _
  | goesOn hid' hc => exact call?_goOn_of_ne (ne_of_about habout hid') _
  | leaves hid' hc =>
      rw [call?_leave, id_of_call? hc, if_neg (ne_of_about habout hid')]
  | ends hid' hc result =>
      rw [call?_finish, id_of_call? hc, if_neg (ne_of_about habout hid')]

/-- Nor does it change whether a call has a result, and which. -/
theorem Change.result? {about : Option Nat} {d' : Dispatcher}
    (hd : Change d about d') (hid : id < d.nextCall)
    (habout : about ≠ some id) : d'.result? id = d.result? id := by
  cases hd with
  | stays => rfl
  | carries outbox => rfl
  | rejects hnext e =>
      exact result?_reject (d := { d with correlator := _ }) hid e
  | emits => rfl
  | admits now r hopen hfree => rfl
  | goesOn hid' hc => rfl
  | leaves hid' hc => rfl
  | ends hid' hc result =>
      refine result?_finish_of_ne ?_ result
      rw [id_of_call? hc]
      exact ne_of_about habout hid'

/-- The numbers of calls are given out in order. -/
theorem Change.nextCall {about : Option Nat} {d' : Dispatcher}
    (hd : Change d about d') : d.nextCall ≤ d'.nextCall := by
  cases hd with
  | rejects | emits | admits => exact Nat.le_succ _
  | stays | carries | goesOn | leaves | ends => exact Nat.le_refl _

/-- The client waits as long as it was told at its start. -/
theorem Change.timeout {about : Option Nat} {d' : Dispatcher}
    (hd : Change d about d') : d'.timeout = d.timeout := by
  cases hd <;> rfl

/-- A move about another call, or about none, leaves a call where it stands. -/
theorem call?_move (hid : id < d.nextCall) (hm : m.call? ≠ some id) :
    (d.move m).call? id = d.call? id := by
  cases hop : m.op? with
  | none => exact (d.move_change hop).call? hid hm
  | some op => rw [d.move_op hop]; rfl

/-- And it leaves the result of a call as it is. -/
theorem result?_move (hid : id < d.nextCall) (hm : m.call? ≠ some id) :
    (d.move m).result? id = d.result? id := by
  cases hop : m.op? with
  | none => exact (d.move_change hop).result? hid hm
  | some op => rw [d.move_op hop]; rfl

/-- No move takes the number of a call back. -/
theorem nextCall_le_move (d : Dispatcher) (m : Move) :
    d.nextCall ≤ (d.move m).nextCall := by
  cases hop : m.op? with
  | none => exact (d.move_change hop).nextCall
  | some op =>
      have hsame : (d.move m).nextCall = d.nextCall := by
        rw [d.move_op hop]
      exact Nat.le_of_eq hsame.symm

/-- No run takes the number of a call back. -/
theorem nextCall_le_run (d : Dispatcher) (moves : List Move) :
    d.nextCall ≤ (d.run moves).nextCall := by
  induction moves generalizing d with
  | nil => exact Nat.le_refl _
  | cons m moves ih =>
      rw [run_cons]
      exact Nat.le_trans (d.nextCall_le_move m) (ih _)

/-- A request takes a number, whether it is refused or not. -/
theorem nextCall_enter (d : Dispatcher) (now : Nat) (fresh : String) (r : Request) :
    (d.move (.enter now fresh r)).nextCall = d.nextCall + 1 := by
  obtain ⟨key, hkey⟩ := Option.isSome_iff_exists.mp
    (r.signal.isSome_correlationId_prepared fresh)
  obtain ⟨-, heq⟩ | ⟨-, heq⟩ | ⟨-, -, heq⟩ := d.enter_cases (r := r.prepared fresh) hkey now
  · exact congrArg nextCall heq
  · exact congrArg nextCall heq
  · exact congrArg nextCall heq

/-- No move changes how long the client waits. -/
theorem timeout_move (d : Dispatcher) (m : Move) :
    (d.move m).timeout = d.timeout := by
  cases hop : m.op? with
  | none => exact (d.move_change hop).timeout
  | some op => rw [d.move_op hop]

/-- No run changes how long the client waits. -/
theorem timeout_run (d : Dispatcher) (moves : List Move) :
    (d.run moves).timeout = d.timeout := by
  induction moves generalizing d with
  | nil => rfl
  | cons m moves ih => rw [run_cons, ih, timeout_move]

-- ================================================================ its reply

/-- The outcome that a move has for a subscription: an envelope with its
key, its timer, or the closing. -/
def Move.outcome? (e : Correlator.Entry) (span : Span) :
    Move → Option (Outcome Envelope)
  | take f =>
      match f.decode with
      | .ok envelope =>
          if envelope.correlationId = some e.key then some (.ok envelope)
          else none
      | .error _ => none
  | fire n =>
      if n = e.number then some (.error (.timeout e.key span)) else none
  | close => some (.error .closed)
  | enter .. | emit | transport _ | answer .. | poll _ | drop _ => none

/-- What a subscription can come to, and by what. -/
theorem Move.outcome?_cases {e : Correlator.Entry} {span : Span}
    {o : Outcome Envelope} (h : m.outcome? e span = some o) :
    (∃ f envelope, m = .take f ∧ f.decode = .ok envelope
      ∧ envelope.correlationId = some e.key ∧ o = .ok envelope)
    ∨ (m = .fire e.number ∧ o = .error (.timeout e.key span))
    ∨ (m = .close ∧ o = .error .closed) := by
  cases m with
  | take f =>
      cases hf : f.decode with
      | error err => simp [outcome?, hf] at h
      | ok envelope =>
          simp only [outcome?, hf] at h
          split at h
          case isTrue hkey =>
            exact .inl ⟨f, envelope, rfl, hf, hkey, (Option.some.inj h).symm⟩
          case isFalse => cases h
  | fire n =>
      obtain rfl | hn := Decidable.em (n = e.number)
      · rw [outcome?, if_pos rfl] at h
        exact .inr (.inl ⟨rfl, (Option.some.inj h).symm⟩)
      · rw [outcome?, if_neg hn] at h
        cases h
  | close => exact .inr (.inr ⟨rfl, (Option.some.inj h).symm⟩)
  | enter | emit | transport | answer | poll | drop => cases h

/-- A move that does nothing to the table by itself has no outcome for
anybody. -/
theorem Move.outcome?_of_op? {e : Correlator.Entry} {span : Span}
    (hop : m.op? = none) : m.outcome? e span = none := by
  cases m with
  | take f =>
      cases hf : f.decode with
      | ok envelope => simp [op?, hf] at hop
      | error e => simp [outcome?, hf]
  | fire | close => cases hop
  | enter | emit | transport | answer | poll | drop => rfl

/-- What a move does to the table is to offer its outcome to a reply that
has none. -/
theorem Sound.offered (h : Sound d) {op : Correlator.Op Envelope}
    (hop : m.op? = some op) {r : Correlator.Reply Envelope}
    (hr : r ∈ d.correlator.replies) (ho : r.outcome = none) :
    r.offered d.correlator op = m.outcome? r.entry d.timeout := by
  obtain ⟨f, envelope, rfl, hf, rfl⟩ | ⟨n, rfl, rfl⟩ | ⟨rfl, rfl⟩ :=
    Move.op?_cases hop
  · simp only [Move.outcome?, hf]
    rfl
  · have hpending : r.entry ∈ d.correlator.entries :=
      h.table.mem_entries.mpr ⟨r, hr, ho, rfl⟩
    obtain ⟨t, ht, hentry⟩ := h.table.exists_timer hpending
    change d.correlator.timer? r.number = some t at ht
    have hkey : t.key = r.key := congrArg Correlator.Entry.key hentry
    have hspan := h.spans t (h.table.timer?_eq_some.mp ht).1
    show (if r.number = n then _ else _) = if n = r.number then _ else _
    by_cases hn : r.number = n
    · subst hn
      rw [if_pos rfl, if_pos rfl, ht, Option.map_some, hkey, hspan]
      rfl
    · rw [if_neg hn, if_neg (Ne.symm hn)]
  · rfl

/-- A call that leaves takes no reply along but its own. -/
theorem Sound.reply?_leave (h : Sound d) {call : Call}
    (hc : call ∈ d.calls) {n : Nat}
    (hn : ∀ e, call.state.subscription? = some e → n ≠ e.number) :
    (d.leave call).correlator.reply? n = d.correlator.reply? n := by
  unfold Dispatcher.leave
  cases he : call.state.subscription? with
  | none => rfl
  | some e =>
      show (d.correlator.release e.key e.number).reply? n = _
      rw [h.table.reply?_release (h.key_eq hc he), if_neg (hn e he)]

/-- A change about another call, or about none, leaves the reply of a
call as it is. -/
theorem Sound.reply?_change (h : Sound d) {about : Option Nat}
    {d' : Dispatcher} (hd : Change d about d') (habout : about ≠ some id)
    {call : Call} (hc : d.call? id = some call) {e : Correlator.Entry}
    (he : call.state.subscription? = some e) :
    d'.correlator.reply? e.number = d.correlator.reply? e.number := by
  obtain ⟨hmem, hid⟩ := h.call?_eq_some.mp hc
  -- a call that leaves is another one, so its subscription is another
  have hother : ∀ {id' call'}, about = some id' →
      d.call? id' = some call' → ∀ e', call'.state.subscription? = some e' →
        e.number ≠ e'.number := by
    intro id' call' hid' hc' e' he' hn
    obtain ⟨hmem', rfl⟩ := h.call?_eq_some.mp hc'
    rw [← h.eq_of_number hmem hmem' he he' hn, hid] at hid'
    exact habout hid'
  cases hd with
  | stays | carries | rejects | emits | goesOn => rfl
  | admits now r hopen hfree =>
      obtain ⟨r', hr', -⟩ := h.exists_reply hmem he
      have hlt : e.number < d.correlator.next := by
        obtain ⟨hin, hn⟩ := h.table.reply?_eq_some.mp hr'
        exact hn ▸ h.table.fresh r' hin
      show (d.correlator.register now _ d.timeout).reply? e.number = _
      rw [h.table.reply?_register, if_neg (Nat.ne_of_lt hlt)]
  | leaves hid' hc' =>
      exact h.reply?_leave (h.call?_eq_some.mp hc').1 (hother hid' hc')
  | ends hid' hc' result =>
      exact h.reply?_leave (h.call?_eq_some.mp hc').1 (hother hid' hc')

/-- A move about another call, or about none, gives the reply of a call
the outcome that it has for it, unless the reply has one already. -/
theorem Sound.outcome?_move (h : Sound d) (hm : m.call? ≠ some id)
    {call : Call} (hc : d.call? id = some call) {e : Correlator.Entry}
    (he : call.state.subscription? = some e) :
    (d.move m).correlator.outcome? e.number
      = (d.correlator.outcome? e.number).or (m.outcome? e d.timeout) := by
  obtain ⟨r, hr, rfl⟩ :=
    h.exists_reply (h.call?_eq_some.mp hc).1 he
  have hmem := (h.table.reply?_eq_some.mp hr).1
  change d.correlator.reply? r.number = some r at hr
  show (d.move m).correlator.outcome? r.number
    = (d.correlator.outcome? r.number).or _
  cases hop : m.op? with
  | none =>
      have hsame := h.reply?_change (d.move_change hop) hm hc he
      rw [Move.outcome?_of_op? hop, Option.or_none]
      exact congrArg (Option.bind · _) hsame
  | some op =>
      have hstep := h.table.reply?_step_some hr
        (Move.op?_ne_release hop r.number)
      rw [d.move_op hop]
      simp only [Correlator.outcome?, hr, hstep, Option.bind_some,
        Correlator.Reply.after]
      cases ho : r.outcome with
      | some o => rfl
      | none => rw [Option.none_or, Option.none_or, h.offered hop hmem ho]

end DeviceTwin.Dispatcher
