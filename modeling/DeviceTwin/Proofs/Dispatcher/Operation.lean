/-
The operations of a client as runs.

Every operation is a list of moves (`Sound.operate_eq_run`): its own, and
then what settling comes to, which is the timers that are due, the
answers of the transport to senders who waited too long, and a look of
every call at its reply. So what holds of all runs of moves holds of
every client, and a call is cancelled by nobody but whoever asks for it
(`cancel_of_mem_service`).

Settling leaves nothing to do (`Settled`): a call whose frame is accepted
and whose reply has an outcome has ended. So between operations a look at
a reply never finds anything new.
-/
import DeviceTwin.Proofs.Dispatcher.Effect

namespace DeviceTwin.Dispatcher

variable {d : Dispatcher}

-- ================================================================ operations

/-- What can be asked of a client, and the passing of time. -/
inductive Operation where
  | request (now : Nat) (fresh : String) (r : Request)
  | emitFrame (now : Nat) (f : Frame)
  | cancel (now id : Nat)
  | inbound (now : Nat) (f : Frame)
  | receive (now n : Nat)
  | disconnect (now : Nat)
  | trySend (f : Frame)
  | shutdown (now : Nat)
  | settle (now : Nat)

/-- The client after an operation. -/
def operate (d : Dispatcher) : Operation → Dispatcher
  | .request now fresh r => d.request now fresh r
  | .emitFrame now f => d.emitFrame now f
  | .cancel now id => d.cancel now id
  | .inbound now f => (d.inbound now f).1
  | .receive now n => (d.receive now n).1
  | .disconnect now => d.disconnect now
  | .trySend f => (d.trySend f).1
  | .shutdown now => d.shutdown now
  | .settle now => d.settle now

-- ================================================================== as moves

/-- Verdicts as moves. -/
def answers (verdicts : List Outbox.Verdict) : List Move :=
  verdicts.map fun v => .answer v.1 v.2

/-- The moves that are due: timers, and senders who waited too long. -/
def due (d : Dispatcher) (now : Nat) : List Move :=
  (d.correlator.timers.filter (·.deadline ≤ now)).map
      (fun t => Move.fire t.number)
    ++ .transport (d.outbox.expire now).1
      :: answers (d.outbox.expire now).2

/-- The moves of settling. -/
def settling (d : Dispatcher) (now : Nat) : List Move :=
  d.due now ++ (d.run (d.due now)).calls.map fun call => .poll call.id

/-- The moves of handing a frame over. -/
def handing (d : Dispatcher) (now id : Nat) (f : Frame) : List Move :=
  .transport (d.outbox.send now id f).1
    :: (d.outbox.send now id f).2.toList.map (.answer id)

/-- The moves of an operation before it settles. -/
def opening (d : Dispatcher) : Operation → List Move
  | .request now fresh r =>
      let entered := d.enter now (r.prepared fresh)
      .enter now fresh r
        :: if (entered.call? d.nextCall).isSome then
            entered.handing now d.nextCall
              (entered.encode (r.prepared fresh).signal)
          else []
  | .emitFrame now f => .emit :: (d.enroll .emitting).handing now d.nextCall f
  | .cancel _ id => [.drop id, .transport (d.outbox.cancel id)]
  | .inbound _ f => [.take f]
  | .receive _ n =>
      .transport (d.outbox.receive n).1 :: answers (d.outbox.receive n).2.2
  | .disconnect _ =>
      .transport d.outbox.disconnect.1 :: answers d.outbox.disconnect.2
  | .trySend f => [.transport (d.outbox.trySend f).1]
  | .shutdown _ => [.close]
  | .settle _ => []

/-- The time of an operation that settles. -/
def Operation.now? : Operation → Option Nat
  | request now _ _ | emitFrame now _ | cancel now _ | inbound now _
  | receive now _ | disconnect now | shutdown now | settle now => some now
  | trySend _ => none

/-- The moves of an operation, and of settling behind it. -/
def moves (d : Dispatcher) (op : Operation) : List Move :=
  d.opening op ++ match op.now? with
    | some now => (d.run (d.opening op)).settling now
    | none => []

/-- Verdicts are delivered one after the other. -/
theorem run_answers (d : Dispatcher) (verdicts : List Outbox.Verdict) :
    d.run (answers verdicts) = verdicts.foldl deliver d := by
  unfold run answers
  rw [List.foldl_map]
  rfl

/-- Timers that fire touch nothing but the table. -/
theorem run_fires (d : Dispatcher) (numbers : List Nat) :
    d.run (numbers.map .fire)
      = { d with correlator := d.correlator.run (numbers.map .fire) } := by
  induction numbers generalizing d with
  | nil => rfl
  | cons n numbers ih =>
      rw [List.map_cons, run_cons, ih]
      rfl

/-- The ends of calls are looks at their replies. -/
theorem run_polls (d : Dispatcher) (calls : List Call) :
    d.run (calls.map fun call => .poll call.id)
      = (calls.map (·.id)).foldl poll d := by
  unfold run
  rw [List.foldl_map, List.foldl_map]
  rfl

/-- The moves of handing a frame over do hand it over. -/
theorem run_handing (d : Dispatcher) (now id : Nat) (f : Frame) :
    d.run (d.handing now id f) = d.handOver now id f := by
  unfold handing handOver
  rw [run_cons]
  cases d.outbox.send now id f with
  | mk outbox answered => cases answered <;> rfl

/-- Settling is what is due, and then the ends of calls. -/
theorem Sound.settle_eq (h : Sound d) (now : Nat) :
    d.settle now = (d.run (d.due now)).conclude := by
  have hfires := d.run_fires
    ((d.correlator.timers.filter (·.deadline ≤ now)).map (·.number))
  rw [List.map_map, List.map_map] at hfires
  unfold Dispatcher.settle due
  rw [run_append, run_cons, run_answers, h.table.expire_eq_run]
  exact congrArg (fun d' : Dispatcher =>
    ((d.outbox.expire now).2.foldl deliver
      (d'.move (.transport (d.outbox.expire now).1))).conclude) hfires.symm

/-- Settling is a run. -/
theorem Sound.settle_eq_run (h : Sound d) (now : Nat) :
    d.settle now = d.run (d.settling now) := by
  rw [h.settle_eq, settling, run_append, run_polls]
  rfl

/-- What an operation does before it settles is a run. -/
theorem operate_opening (d : Dispatcher) (op : Operation) :
    d.operate op = match op.now? with
      | some now => (d.run (d.opening op)).settle now
      | none => d.run (d.opening op) := by
  cases op with
  | request now fresh r =>
      simp only [operate, request, Operation.now?, opening]
      rw [run_cons]
      split
      case isTrue =>
        exact congrArg (Dispatcher.settle · now) (run_handing _ _ _ _).symm
      case isFalse => rfl
  | emitFrame now f =>
      simp only [operate, emitFrame, Operation.now?, opening]
      rw [run_cons]
      exact congrArg (Dispatcher.settle · now) (run_handing _ _ _ _).symm
  | receive now n =>
      simp only [operate, receive, Operation.now?, opening]
      rw [run_cons, run_answers]
      rfl
  | disconnect now =>
      simp only [operate, disconnect, Operation.now?, opening]
      rw [run_cons, run_answers]
      rfl
  | cancel | inbound | trySend | shutdown | settle => rfl

/-- Every operation is a run of its moves. -/
theorem Sound.operate_eq_run (h : Sound d) (op : Operation) :
    d.operate op = d.run (d.moves op) := by
  rw [operate_opening, moves, run_append]
  cases op.now? with
  | none => rfl
  | some now => exact (h.run _).settle_eq_run now

-- ================================================================= settled

/-- A call that has nothing to do: it does not wait, or its reply has no
outcome. -/
def Idle (d : Dispatcher) (id : Nat) : Prop :=
  ∀ i r key n, d.call? id = some ⟨i, .waiting r key n⟩ →
    d.correlator.outcome? n = none

/-- No call has anything to do. -/
def Settled (d : Dispatcher) : Prop := ∀ id, Idle d id

/-- A client starts with nothing to do. -/
theorem settled_ofConfig (config : Config) : Settled (ofConfig config) := by
  intro id i r key n hc
  cases hc

variable {id : Nat}

/-- A look at its reply changes nothing for an idle call. -/
theorem Idle.poll_eq (hi : Idle d id) : d.poll id = d := by
  cases h : d.call? id with
  | none => exact poll_none h
  | some call =>
      obtain ⟨i, state⟩ := call
      cases state with
      | emitting => simp only [poll, h]
      | sending r key n => exact poll_sending h
      | waiting r key n => exact poll_open h (hi i r key n h)

/-- After a look at its reply a call is idle. -/
theorem idle_poll (d : Dispatcher) (id : Nat) : Idle (d.poll id) id := by
  intro i r key n hc
  cases h : d.call? id with
  | none =>
      rw [poll_none h, h] at hc
      cases hc
  | some call =>
      obtain heq | ⟨call', result, hc', heq⟩ := d.poll_cases id
      · rw [heq] at hc ⊢
        cases ho : d.correlator.outcome? n with
        | none => rfl
        | some o =>
            -- the call would have ended
            have hgone : (d.poll id).call? id = none := by
              rw [poll_ended hc ho, call?_finish, if_pos (id_of_call? hc).symm]
            rw [heq, hc] at hgone
            cases hgone
      · rw [heq, call?_finish, if_pos (id_of_call? hc').symm] at hc
        cases hc

/-- A call that is idle stays idle when another looks at its reply. -/
theorem Idle.poll (h : Sound d) (hi : Idle d id) (id' : Nat) :
    Idle (d.poll id') id := by
  by_cases hid : id' = id
  · rw [hid, hi.poll_eq]
    exact hi
  · obtain heq | ⟨call, result, hc, heq⟩ := d.poll_cases id'
    · rw [heq]
      exact hi
    · intro i r key n hc'
      have hcall : d.call? id = some ⟨i, .waiting r key n⟩ := by
        rw [heq, call?_finish, id_of_call? hc, if_neg (Ne.symm hid)] at hc'
        exact hc'
      have hother : (Move.poll id').call? ≠ some id :=
        fun h => hid (Option.some.inj h)
      have hsame := h.outcome?_move hother hcall (e := ⟨n, key⟩) rfl
      exact hsame.trans (by simp [hi i r key n hcall, Move.outcome?])

/-- Calls that look at their replies one after the other are idle in the
end, those that were idle before and those that looked. -/
theorem Sound.idle_polls (ids : List Nat) :
    ∀ {d : Dispatcher}, Sound d → Idle d id ∨ id ∈ ids →
      Idle (ids.foldl Dispatcher.poll d) id := by
  induction ids with
  | nil => exact fun _ hi => hi.resolve_right List.not_mem_nil
  | cons i ids ih =>
      intro d h hi
      refine ih (h.move (.poll i)) ?_
      obtain hi | hi := hi
      · exact .inl (hi.poll h i)
      · rcases List.mem_cons.mp hi with rfl | hmem
        · exact .inl (d.idle_poll id)
        · exact .inr hmem

/-- A look at a reply brings no new call. -/
theorem calls_polls_subset (ids : List Nat) :
    ∀ d : Dispatcher, (ids.foldl poll d).calls ⊆ d.calls := by
  induction ids with
  | nil => exact fun d => List.Subset.refl _
  | cons i ids ih =>
      intro d
      refine List.Subset.trans (ih (d.poll i)) ?_
      obtain heq | ⟨call, result, -, heq⟩ := d.poll_cases i
      · rw [heq]
        exact List.Subset.refl _
      · rw [heq]
        exact List.filter_subset_self _

/-- When all calls have looked at their replies, none has anything to
do. -/
theorem Sound.settled_conclude (h : Sound d) : Settled d.conclude := by
  intro id i r key n hc
  have hmem : Call.mk i (.waiting r key n) ∈ d.calls :=
    d.calls_polls_subset _ (List.mem_of_find?_eq_some hc)
  obtain rfl : i = id := id_of_call? hc
  exact h.idle_polls _ (.inr (List.mem_map_of_mem hmem)) i r key n hc

/-- Every operation leaves nothing to do. -/
theorem Sound.settled_operate (h : Sound d) (hs : Settled d)
    (op : Operation) : Settled (d.operate op) := by
  rw [operate_opening]
  cases hnow : op.now? with
  | some now =>
      have hopened := h.run (d.opening op)
      show Settled ((d.run (d.opening op)).settle now)
      rw [hopened.settle_eq]
      exact (hopened.run _).settled_conclude
  | none =>
      -- an offered frame changes nothing but the transport
      cases op with
      | trySend f => exact hs
      | request | emitFrame | cancel | inbound | receive | disconnect
      | shutdown | settle => cases hnow

-- ====================================================== runs of operations

/-- The client after operations, one after the other. -/
def serve (d : Dispatcher) (ops : List Operation) : Dispatcher :=
  ops.foldl operate d

/-- The moves of operations one after the other. -/
def service (d : Dispatcher) : List Operation → List Move
  | [] => []
  | op :: ops => d.moves op ++ (d.operate op).service ops

/-- The moves of more operations are those of the first and then those of the others. -/
theorem service_append (first second : List Operation) :
    ∀ d : Dispatcher,
      d.service (first ++ second) = d.service first ++ (d.serve first).service second := by
  induction first with
  | nil => exact fun _ => rfl
  | cons op first ih =>
      intro d
      rw [List.cons_append, service, service, ih, List.append_assoc]
      rfl

/-- Operations one after the other are a run, and leave nothing to do. -/
theorem Sound.serve_eq_run (ops : List Operation) :
    ∀ {d : Dispatcher}, Sound d → Settled d →
      d.serve ops = d.run (d.service ops) ∧ Settled (d.serve ops) := by
  induction ops with
  | nil => exact fun _ hs => ⟨rfl, hs⟩
  | cons op ops ih =>
      intro d h hs
      have hnext : Sound (d.operate op) := by
        rw [h.operate_eq_run]
        exact h.run _
      obtain ⟨hrun, hsettled⟩ := ih hnext (h.settled_operate hs op)
      refine ⟨?_, hsettled⟩
      show (d.operate op).serve ops = _
      rw [hrun, service, run_append, ← h.operate_eq_run]

/-- Nobody is cancelled in settling. -/
theorem drop_not_mem_settling (d : Dispatcher) (now id : Nat) :
    .drop id ∉ d.settling now := by
  simp [settling, due, answers]

/-- A call is cancelled by whoever cancels it. -/
theorem cancel_of_mem_moves {op : Operation} (hm : .drop id ∈ d.moves op) :
    ∃ now, op = .cancel now id := by
  have hopening : .drop id ∈ d.opening op := by
    rcases List.mem_append.mp hm with hm | hm
    · exact hm
    · cases hnow : op.now? with
      | none => simp [hnow] at hm
      | some now =>
          rw [hnow] at hm
          exact absurd hm (drop_not_mem_settling _ now id)
  cases op with
  | cancel now i =>
      have hid : id = i := by simpa [opening] using hopening
      exact ⟨now, by rw [hid]⟩
  | request now fresh r =>
      simp only [opening, List.mem_cons, reduceCtorEq, false_or] at hopening
      split at hopening
      · simp [handing] at hopening
      · cases hopening
  | emitFrame | inbound | receive | disconnect | trySend | shutdown
  | settle => simp [opening, handing, answers] at hopening

/-- So a call is cancelled in a run only if somebody asks for it. -/
theorem cancel_of_mem_service (ops : List Operation) :
    ∀ {d : Dispatcher}, .drop id ∈ d.service ops →
      ∃ now, .cancel now id ∈ ops := by
  induction ops with
  | nil =>
      intro d hm
      cases hm
  | cons op ops ih =>
      intro d hm
      rcases List.mem_append.mp hm with hm | hm
      · obtain ⟨now, rfl⟩ := cancel_of_mem_moves hm
        exact ⟨now, List.mem_cons_self⟩
      · obtain ⟨now, hmem⟩ := ih hm
        exact ⟨now, List.mem_cons_of_mem _ hmem⟩

end DeviceTwin.Dispatcher
