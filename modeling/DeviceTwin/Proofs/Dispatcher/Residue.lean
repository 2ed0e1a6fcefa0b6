/-
What a request leaves behind.

A request can end in many ways, and each finds it at another point: it is
refused as it starts, its frame is refused while its subscription is
pending, or was ended by its timer or the closing, or was replaced by that
of a newer request under the same correlation id; it has its reply; or it
is cancelled at any point. `calls_leave_no_residue` says that it makes no
difference. A request that was registered takes its own subscription out
and nothing else, and one that was not has touched nothing.

# What a request owns

A request owns the number of its subscription, and no key. `Owned` ties
the two along a run: as long as the call is there it holds that very
subscription, and when it is gone there is no reply with the number any
more, nor will there be, as numbers are given out once. The key may have
a new owner long before. That nothing else is touched is said by
`Correlator.others`, all of the table that does not have the number: no
move of the request changes it.
-/
import DeviceTwin.Proofs.Dispatcher.Exchange

namespace DeviceTwin

-- ================================================================ the others

namespace Correlator

variable {μ : Type} {c : Correlator μ} {n : Nat}

/-- All of a correlator that does not have a number. -/
def others (c : Correlator μ) (n : Nat) : Correlator μ :=
  { c with
    entries := c.entries.filter (·.number != n)
    timers := c.timers.filter (·.number != n)
    replies := c.replies.filter (·.number != n) }

/-- Nothing has the number. -/
structure Free (c : Correlator μ) (n : Nat) : Prop where
  entries : ∀ e ∈ c.entries, e.number ≠ n
  timers : ∀ t ∈ c.timers, t.number ≠ n
  replies : ∀ r ∈ c.replies, r.number ≠ n

theorem others_others (c : Correlator μ) (n : Nat) :
    (c.others n).others n = c.others n := by
  simp [others, List.filter_filter]

/-- Replies with other numbers are not settled. -/
theorem Reply.map_settled_others (l : List (Reply μ)) (n : Nat)
    (o : Outcome μ) :
    (l.filter (·.number != n)).map (settled n o)
      = l.filter (·.number != n) := by
  refine (List.map_congr_left fun r hr => ?_).trans (List.map_id _)
  have hne : r.number ≠ n := by simpa using (List.mem_filter.mp hr).2
  exact if_neg hne

namespace Tied

/-- A number that no reply has is nowhere. -/
theorem free (h : Tied c) (hn : ∀ r ∈ c.replies, r.number ≠ n) :
    Free c n := by
  have hentries : ∀ e ∈ c.entries, e.number ≠ n := by
    intro e he
    obtain ⟨r, hr, -, rfl⟩ := h.mem_entries.mp he
    exact hn r hr
  exact ⟨hentries, fun t ht => hentries _ (h.timer_mem ht), hn⟩

/-- Ending a subscription leaves the others alone. -/
theorem others_resolve (h : Tied c) {e : Entry} (he : e ∈ c.entries)
    (o : Outcome μ) : (c.resolve e o).others e.number = c.others e.number := by
  show Correlator.mk ((c.entries.filter (·.key != e.key)).filter _)
    ((c.timers.filter (·.number != e.number)).filter _)
    ((c.replies.map (Reply.settled e.number o)).filter _) _ _ = _
  rw [h.filter_key_eq he,
    Lookup.filter_map_ne fun r => r.settled_number e.number o,
    Reply.map_settled_others, List.filter_filter, List.filter_filter]
  simp only [Bool.and_self]
  rfl

/-- A timer that fires leaves the subscriptions alone that it is not
armed for. -/
theorem others_fire (h : Tied c) (t : Timer) :
    (c.fire t).others t.number = c.others t.number := by
  unfold fire
  split
  case isTrue hh => exact h.others_resolve (h.holds_iff.mp hh) _
  case isFalse => rfl

/-- So does the step in which it fires. -/
theorem others_step_fire (h : Tied c) (n : Nat) :
    (c.step (.fire n)).1.others n = c.others n := by
  cases ht : c.timer? n with
  | none => rw [step_fire_none ht]
  | some t =>
      obtain ⟨-, rfl⟩ := h.timer?_eq_some.mp ht
      rw [step_fire ht]
      exact h.others_fire t

end Tied

/-- Letting go of a reply leaves no reply with its number. -/
theorem replies_release (c : Correlator μ) (key : String) (n : Nat) :
    (c.release key n).replies = c.replies.filter (·.number != n) := by
  unfold release
  split <;> rfl

end Correlator

namespace Dispatcher

variable {d : Dispatcher} {id : Nat} {e : Correlator.Entry} {m : Move}

-- ================================================================= ownership

/-- A call owns a subscription: the call holds it as long as it is there,
and nobody has its number when the call is gone. -/
structure Owned (d : Dispatcher) (id : Nat) (e : Correlator.Entry) : Prop where
  given : id < d.nextCall
  numbered : e.number < d.correlator.next
  holds : ∀ call, d.call? id = some call → call.state.subscription? = some e
  gone : d.call? id = none → ∀ r ∈ d.correlator.replies, r.number ≠ e.number

namespace Owned

/-- A call that leaves takes its subscription along. -/
theorem leave (h : Owned d id e) {call : Call} (hc : d.call? id = some call) :
    Owned (d.leave call) id e where
  given := h.given
  numbered := Nat.lt_of_lt_of_le h.numbered (d.shrinks_leave call).next
  holds other hother := by
    rw [call?_leave, if_pos (id_of_call? hc).symm] at hother
    cases hother
  gone _ r hr := by
    have hrelease : (d.leave call).correlator.replies
        = d.correlator.replies.filter (·.number != e.number) := by
      unfold Dispatcher.leave
      rw [h.holds call hc]
      exact Correlator.replies_release ..
    rw [hrelease] at hr
    simpa using (List.mem_filter.mp hr).2

/-- A call owns its subscription through every move. -/
theorem move (h : Owned d id e) (m : Move) : Owned (d.move m) id e := by
  by_cases hown : m.call? = some id
  · obtain heq | ⟨i, r, key, n, hc, heq⟩ | ⟨call, hc, heq | ⟨result, heq⟩⟩ :=
      d.move_about hown
    · rw [heq]
      exact h
    · -- the call goes on with the same subscription
      have hgo : (d.move m).call? id = some ⟨id, .waiting r key n⟩ := by
        obtain rfl : i = id := id_of_call? hc
        rw [heq, call?_goOn, hc, Option.map_some, Call.goOn, if_pos rfl]
      have hkept := h.holds _ hc
      rw [heq] at hgo ⊢
      refine ⟨h.given, h.numbered, fun call hcall => ?_, fun hnone => ?_⟩
      · rw [hgo] at hcall
        rw [← Option.some.inj hcall]
        exact hkept
      · rw [hgo] at hnone
        cases hnone
    · rw [heq]
      exact h.leave hc
    · rw [heq]
      obtain ⟨hgiven, hnumbered, hholds, hgone⟩ := h.leave hc
      exact ⟨hgiven, hnumbered, hholds, hgone⟩
  · have hsame : (d.move m).call? id = d.call? id := call?_move h.given hown
    refine ⟨Nat.lt_of_lt_of_le h.given (d.nextCall_le_move m),
      Nat.lt_of_lt_of_le h.numbered (d.next_le_move m),
      fun call hc => h.holds call (hsame ▸ hc), fun hnone r hr hn => ?_⟩
    -- a number that was given out comes back to no reply
    obtain ⟨r', hr', hn'⟩ | hnew := d.number_of_mem_move hr
    · exact h.gone (hsame ▸ hnone) r' hr' (hn'.trans hn)
    · exact Nat.ne_of_lt h.numbered (hn.symm.trans hnew)

/-- And so it does through every run. -/
theorem run (h : Owned d id e) (moves : List Move) :
    Owned (d.run moves) id e := by
  induction moves generalizing d with
  | nil => exact h
  | cons m moves ih => exact ih (h.move m)

/-- When the call is gone nothing has the number of its subscription. -/
theorem free (h : Owned d id e) (hs : Sound d) (hc : d.call? id = none) :
    d.correlator.Free e.number :=
  hs.table.free (h.gone hc)

/-- A call that leaves touches nobody else's subscription. -/
theorem others_leave (h : Owned d id e) (hs : Sound d) {call : Call}
    (hc : d.call? id = some call) :
    (d.leave call).correlator.others e.number
      = d.correlator.others e.number := by
  have he := h.holds call hc
  have hkey := hs.key_eq (hs.call?_eq_some.mp hc).1 he
  unfold Dispatcher.leave
  rw [he]
  show (d.correlator.release e.key e.number).others e.number = _
  rw [hs.table.release_eq hkey]
  exact d.correlator.others_others e.number

/-- What a call does, and what its timer does, leaves the subscriptions
alone that are not its own. -/
theorem others_move (h : Owned d id e) (hs : Sound d)
    (hm : m.call? = some id ∨ m = .fire e.number) :
    (d.move m).correlator.others e.number
      = d.correlator.others e.number := by
  obtain hown | rfl := hm
  · obtain heq | ⟨i, r, key, n, -, heq⟩ | ⟨call, hc, heq | ⟨result, heq⟩⟩ :=
      d.move_about hown
    · rw [heq]
    · rw [heq]
      rfl
    · rw [heq]
      exact h.others_leave hs hc
    · rw [heq]
      exact h.others_leave hs hc
  · exact hs.table.others_step_fire e.number

end Owned

/-- A call that is gone does not come back, and how it ended does not
change. -/
theorem gone_move (hid : id < d.nextCall) (hc : d.call? id = none)
    (m : Move) :
    (d.move m).call? id = none ∧ (d.move m).result? id = d.result? id := by
  by_cases hown : m.call? = some id
  · rw [d.move_gone hown hc]
    exact ⟨hc, rfl⟩
  · exact ⟨(call?_move hid hown).trans hc, result?_move hid hown⟩

/-- Nor does it in a run. -/
theorem gone_run (moves : List Move) :
    ∀ {d : Dispatcher}, id < d.nextCall → d.call? id = none →
      (d.run moves).call? id = none
        ∧ (d.run moves).result? id = d.result? id := by
  induction moves with
  | nil => exact fun _ hc => ⟨hc, rfl⟩
  | cons m moves ih =>
      intro d hid hc
      obtain ⟨hgone, hsame⟩ := gone_move hid hc m
      obtain ⟨hlater, hend⟩ :=
        ih (Nat.lt_of_lt_of_le hid (d.nextCall_le_move m)) hgone
      exact ⟨hlater, hend.trans hsame⟩

/-- A cancelled call is gone. -/
theorem call?_drop (d : Dispatcher) (id : Nat) :
    (d.drop id).call? id = none := by
  cases hc : d.call? id with
  | none => rw [drop_none hc, hc]
  | some call => rw [drop_some hc, call?_leave, if_pos (id_of_call? hc).symm]

-- ================================================================== attempts

/-- A request in a run: what went before it, what it was, and what came
after it. -/
structure Attempt (config : Config) (moves : List Move) where
  before : List Move
  now : Nat
  fresh : String
  request : Request
  after : List Move
  moves_eq : moves = before ++ .enter now fresh request :: after

namespace Attempt

variable {config : Config} {moves : List Move} (x : Attempt config moves)

/-- The state in which it starts. -/
def start : Dispatcher := (ofConfig config).run x.before

/-- The state in which it has started. -/
def entered : Dispatcher :=
  x.start.move (.enter x.now x.fresh x.request)

/-- The number of the call. -/
def callId : Nat := x.start.nextCall

/-- The subscription that it was registered with. -/
def registered? : Option Correlator.Entry :=
  (x.entered.call? x.callId).bind (·.state.subscription?)

/-- Whether it has ended, with a result or because it was cancelled. -/
def Over : Prop :=
  ((ofConfig config).run moves).result? x.callId ≠ none
    ∨ .drop x.callId ∈ x.after

/-- The run is what happens after the call has started. -/
theorem run_eq : (ofConfig config).run moves = x.entered.run x.after := by
  conv => enter [1]; rw [x.moves_eq]
  exact run_append ..

theorem sound_start : Sound x.start := (sound_ofConfig config).run x.before

theorem sound_entered : Sound x.entered := x.sound_start.move _

/-- The call waits as long as the client was told. -/
theorem timeout_start : x.start.timeout = config.timeout :=
  (ofConfig config).timeout_run x.before

/-- The correlation id with which it starts. -/
theorem exists_key :
    ∃ key, (x.request.prepared x.fresh).signal.correlationId = some key :=
  Option.isSome_iff_exists.mp
    (x.request.signal.isSome_correlationId_prepared x.fresh)

/-- A request that is refused as it starts is not there. -/
theorem call?_rejected {next : Nat} {err : CallError}
    (heq : x.entered = { x.start with correlator :=
      { x.start.correlator with next } }.reject err) :
    x.entered.call? x.callId = none := by
  rw [heq]
  exact Lookup.find?_eq_none_iff.mpr fun call hc =>
    Nat.ne_of_lt (x.sound_start.given call hc)

/-- A request that is admitted is there. -/
theorem call?_admitted {key : String}
    (heq : x.entered = { x.start with
          correlator := x.start.correlator.register x.now key x.start.timeout }.enroll
        (.sending (x.request.prepared x.fresh) key x.start.correlator.next)) :
    x.entered.call? x.callId
      = some ⟨x.callId, .sending (x.request.prepared x.fresh) key
          x.start.correlator.next⟩ := by
  rw [heq]
  exact call?_enroll_self (d := { x.start with correlator := _ })
    x.sound_start.given _

/-- A request that was registered got a number of its own for a
correlation id that was free, and nothing else happened to the table. It
owns its subscription. -/
theorem registered {e : Correlator.Entry} (he : x.registered? = some e) :
    (x.request.prepared x.fresh).signal.correlationId = some e.key
    ∧ x.start.correlator.isPending e.key = false
    ∧ x.entered.correlator
      = x.start.correlator.register x.now e.key config.timeout
    ∧ Owned x.entered x.callId e := by
  obtain ⟨key, hkey⟩ := x.exists_key
  unfold registered? at he
  obtain ⟨-, heq⟩ | ⟨-, heq⟩ | ⟨-, hfree, heq⟩ :=
    x.start.enter_cases hkey x.now
  · rw [x.call?_rejected heq] at he
    cases he
  · rw [x.call?_rejected heq] at he
    cases he
  · have hc := x.call?_admitted heq
    change x.entered = _ at heq
    rw [hc] at he
    obtain rfl := Option.some.inj he
    rw [x.timeout_start] at heq
    refine ⟨hkey, hfree, ?_, ?_, ?_, fun call hcall => ?_, fun hnone => ?_⟩
    · rw [heq]
      rfl
    · rw [heq]
      exact Nat.lt_succ_self _
    · rw [heq]
      exact Nat.lt_succ_self _
    · rw [hc] at hcall
      obtain rfl := Option.some.inj hcall
      rfl
    · rw [hc] at hnone
      cases hnone

/-- A request that was not registered was refused because the table is
closed or its correlation id is taken. Nothing happened to the calls, the
transport and the table, but that a number may be lost. -/
theorem refused (hnone : x.registered? = none) :
    ∃ key next err,
      (x.request.prepared x.fresh).signal.correlationId = some key
      ∧ (x.start.correlator.closed = true ∧ err = .closed
        ∨ x.start.correlator.isPending key = true
          ∧ err = .alreadyPending key)
      ∧ x.entered = { x.start with correlator :=
          { x.start.correlator with next } }.reject err := by
  obtain ⟨key, hkey⟩ := x.exists_key
  obtain ⟨hclosed, heq⟩ | ⟨hpending, heq⟩ | ⟨-, -, heq⟩ :=
    x.start.enter_cases hkey x.now
  · exact ⟨key, _, _, hkey, .inl ⟨hclosed, rfl⟩, heq⟩
  · exact ⟨key, _, _, hkey, .inr ⟨hpending, rfl⟩, heq⟩
  · rw [registered?, x.call?_admitted heq] at hnone
    cases hnone

/-- When the request is over its call is gone. -/
theorem call?_over {e : Correlator.Entry} (howned : Owned x.entered x.callId e)
    (hover : x.Over) :
    ((ofConfig config).run moves).call? x.callId = none := by
  have hs := (sound_ofConfig config).run moves
  obtain hresult | hdrop := hover
  · cases hc : ((ofConfig config).run moves).call? x.callId with
    | none => rfl
    | some call => exact absurd (hs.result?_eq_none hc) hresult
  · obtain ⟨earlier, later, heq⟩ := List.append_of_mem hdrop
    have hgone := (x.entered.run earlier).call?_drop x.callId
    have hgiven := ((howned.run earlier).move (.drop x.callId)).given
    rw [x.run_eq, heq, run_append, run_cons]
    exact (gone_run later hgiven hgone).1

end Attempt

/-- Requests leave nothing behind, however they end. In every run, for
every request,

- if it was registered: its correlation id was free, and its own
  subscription was entered and nothing else; whatever it does afterwards,
  and its timer too, leaves all other entries, timers and replies as they
  are, also those under its correlation id; and when it is over, with any
  result or because it was cancelled at any time, nothing in the table has
  the number of its subscription;
- if it was not: it ends at once because the table is closed or its
  correlation id is taken, and with that result it stays. The calls, the
  transport, the entries, the timers and the replies are what they were,
  and no frame is handed over.

Writing a frame never fails, so there is no third way to be refused. -/
theorem calls_leave_no_residue {config : Config} {moves : List Move}
    (x : Attempt config moves) :
    let d := (ofConfig config).run moves
    (∀ e, x.registered? = some e →
      (x.request.prepared x.fresh).signal.correlationId = some e.key
      ∧ x.start.correlator.isPending e.key = false
      ∧ x.entered.correlator
        = x.start.correlator.register x.now e.key config.timeout
      ∧ (∀ earlier m later, x.after = earlier ++ m :: later →
          m.call? = some x.callId ∨ m = .fire e.number →
          ((x.entered.run earlier).move m).correlator.others e.number
            = (x.entered.run earlier).correlator.others e.number)
      ∧ (x.Over → d.correlator.Free e.number))
    ∧ (x.registered? = none →
      ∃ key next err,
        (x.request.prepared x.fresh).signal.correlationId = some key
        ∧ (x.start.correlator.closed = true ∧ err = .closed
          ∨ x.start.correlator.isPending key = true
            ∧ err = .alreadyPending key)
        ∧ x.entered = { x.start with correlator :=
            { x.start.correlator with next } }.reject err
        ∧ x.start.request x.now x.fresh x.request = x.entered.settle x.now
        ∧ d.result? x.callId = some (.error err)) := by
  refine ⟨fun e he => ?_, fun hnone => ?_⟩
  · obtain ⟨hkey, hfree, hregister, howned⟩ := x.registered he
    refine ⟨hkey, hfree, hregister, fun earlier m later _ hm => ?_,
      fun hover => ?_⟩
    · exact (howned.run earlier).others_move (x.sound_entered.run earlier) hm
    · have hgone := x.call?_over howned hover
      rw [x.run_eq] at hgone ⊢
      exact (howned.run x.after).free (x.sound_entered.run x.after) hgone
  · obtain ⟨key, next, err, hkey, hwhy, heq⟩ := x.refused hnone
    have hgone := x.call?_rejected heq
    refine ⟨key, next, err, hkey, hwhy, heq, ?_, ?_⟩
    · -- there is no call whose frame could be handed over
      have hisNone : (x.entered.call? x.callId).isSome = false := by
        rw [hgone]
        rfl
      unfold Dispatcher.request
      change Dispatcher.settle
        (if (x.entered.call? x.callId).isSome then _ else x.entered) _ = _
      rw [hisNone]
      rfl
    · have hgiven : x.callId < x.entered.nextCall := by
        rw [heq]
        exact Nat.lt_succ_self _
      have hresult : x.entered.result? x.callId = some (.error err) := by
        rw [heq]
        refine congrArg (Option.map Prod.snd) (Lookup.find?_concat_self
          (x := (x.start.nextCall, Except.error err)) fun p hp => ?_)
        exact Nat.ne_of_lt (x.sound_start.past p hp)
      rw [x.run_eq, (gone_run x.after hgiven hgone).2, hresult]

/-- A request times out in line and its correlation id is used again,
twice: the first time by a request that is admitted, then by one that is
refused. After that the frame of the first is refused. -/
def reusing : List Move :=
  [.enter 0 "a" retrieval, .fire 1, .enter 0 "a" retrieval,
    .enter 0 "a" retrieval, .answer 0 (.error .timeout)]

/-- The first of them. -/
def expired : Attempt {} reusing where
  before := []
  now := 0
  fresh := "a"
  request := retrieval
  after := reusing.tail
  moves_eq := rfl

/-- The last of them. -/
def late : Attempt {} reusing where
  before := reusing.take 3
  now := 0
  fresh := "a"
  request := retrieval
  after := reusing.drop 4
  moves_eq := rfl

/-- The first and the last have ended, and what the second waits for is
there. -/
theorem expired_leaves_newer :
    let d := (ofConfig {}).run reusing
    expired.Over ∧ d.correlator.Free 1
    ∧ (∃ err, d.result? 2 = some (.error err))
    ∧ d.correlator.entries = [⟨2, "a"⟩] := by
  obtain ⟨hregistered, -⟩ := calls_leave_no_residue expired
  obtain ⟨-, hrefused⟩ := calls_leave_no_residue late
  have hover : expired.Over := .inl nofun
  obtain ⟨-, -, -, -, hfree⟩ := hregistered ⟨1, "a"⟩ rfl
  obtain ⟨-, -, err, -, -, -, -, hresult⟩ := hrefused rfl
  exact ⟨hover, hfree hover, ⟨err, hresult⟩, rfl⟩

end Dispatcher

end DeviceTwin
