/-
The end of a client.

A client may be shut down at any time: between operations, and in the midst
of what they bring about, when a call has a reply that it has not looked at
or waits for room (`Reaches`). Then the pump stops, the table is closed, and
every subscription in it ends.

A closed table admits nothing (`Dispatcher.After`), so the state after the
closing is an absorbing one: whatever else is asked of the client or happens
to it, what is true then remains true (`shutdown_is_complete_and_final`).
-/
import DeviceTwin.Proofs.Client.Run
import DeviceTwin.Proofs.Dispatcher.Shutdown

namespace DeviceTwin.Client

open Dispatcher (After Final Move Stands)

variable {η : Type} {c later : Client η}

-- ===================================================================== reaching

/-- What a client can become by operations and by single moves of its calls. -/
inductive Reaches (c : Client η) : Client η → Prop where
  | refl : Reaches c c
  | operate {c' : Client η} (h : Reaches c c') (op : Operation η) : Reaches c (c'.operate op)
  | move {c' : Client η} (h : Reaches c c') (m : Move) :
      Reaches c { c' with dispatcher := c'.dispatcher.move m }

theorem Reaches.run (moves : List Move) :
    ∀ {c' : Client η}, Reaches c c' →
      Reaches c { c' with dispatcher := c'.dispatcher.run moves } := by
  induction moves with
  | nil => exact id
  | cons m moves ih => exact fun h => ih (h.move m)

/-- The calls agree with the table in everything that a client can become. -/
theorem Reaches.sound (h : Reaches c later) (hs : c.dispatcher.Sound) :
    later.dispatcher.Sound := by
  induction h with
  | refl => exact hs
  | operate _ op ih => exact (touched_operate _ op).sound ih
  | move _ m ih => exact ih.move m

-- =================================================================== the closing

/-- Nothing that is asked of a client whose table is closed opens it. -/
theorem Touched.after {d : Dispatcher} {now : Nat} (h : Touched d now c) (hs : d.Sound)
    (hclosed : d.correlator.closed = true) : After d c.dispatcher := by
  have hoperated : ∀ op, After d (d.operate op) := by
    intro op
    rw [hs.operate_eq_run]
    exact hs.after_run _ hclosed
  cases h with
  | not _ calls =>
      rw [calls]
      exact ⟨hclosed, List.Subset.refl _⟩
  | collected _ calls =>
      rw [calls]
      exact ⟨hclosed, List.Subset.refl _⟩
  | offered _ f calls =>
      rw [calls]
      exact hoperated (.trySend f)
  | operated op _ calls =>
      rw [calls]
      exact hoperated op

theorem Reaches.after (h : Reaches c later) (hs : c.dispatcher.Sound)
    (hclosed : c.dispatcher.correlator.closed = true) : After c.dispatcher later.dispatcher := by
  induction h with
  | refl => exact ⟨hclosed, List.Subset.refl _⟩
  | operate hr op ih =>
      exact ih.trans ((touched_operate _ op).after (hr.sound hs) ih.closed)
  | move hr m ih => exact ih.trans ((hr.sound hs).after_move ih.closed m)

/-- A client when the table has been closed and nothing else has happened. -/
def closing (c : Client η) : Client η :=
  { c.stopPump with dispatcher := c.dispatcher.move .close }

theorem shutdown_eq (c : Client η) :
    c.shutdown = { c.closing with dispatcher := c.closing.dispatcher.settle c.now } := rfl

/-- Shutting a client down is complete and final. Whatever happened to a client
before, when it is shut down

- the subscriptions that are pending end as closed, and their number is what
  closing gives back; every other reply keeps its outcome;
- the pump is stopped, and what is due happens to the calls: a request whose frame
  was accepted has ended by what its subscription had come to before, or as closed.

From then on, whatever is asked of the client or happens to it,

- the table stays empty, every request that starts fails and does not come to the
  transport, and what is taken in comes back if there is a signal in it;
- no reply gets an outcome, or another one;
- a request whose frame still waits for room ends in the same way once its frame is
  accepted, unless it is cancelled. -/
theorem shutdown_is_complete_and_final {config : Config} (hc : Reaches (start config) c) :
    let d := c.dispatcher
    let closed := c.closing.dispatcher
    (d.correlator.close.2 = d.correlator.pendingCount
      ∧ d.correlator.pendingCount = (d.correlator.replies.filter (·.outcome.isNone)).length
      ∧ ∀ n r, d.correlator.reply? n = some r →
        (r.entry ∈ d.correlator.entries ↔ r.outcome = none)
        ∧ closed.correlator.reply? n
          = some (if r.entry ∈ d.correlator.entries
              then { r with outcome := some (.error .closed) } else r))
    ∧ (c.shutdown.pumpStarted = false
      ∧ c.shutdown = { c.closing with dispatcher := closed.settle c.now }
      ∧ Reaches c.closing c.shutdown
      ∧ ∀ id r e o?, Stands d id r e (some (.ok ())) o? →
        c.shutdown.dispatcher.result? id
          = some ((r.conclude (o?.getD (.error .closed))).map some))
    ∧ (∀ later, Reaches c.closing later → Final later.dispatcher
      ∧ later.dispatcher.correlator.replies ⊆ closed.correlator.replies)
    ∧ ∀ after id r e a? o?, Stands d id r e a? o? → .drop id ∉ after →
      ((closed.run after).poll id).result? id
        = r.verdict (a?.or (after.findSome? (Move.answer? id)))
            (o?.or (some (.error .closed))) := by
  intro d closed
  have hs : d.Sound := hc.sound (Dispatcher.sound_ofConfig config)
  have hsound : closed.Sound := hs.move .close
  have hclosed : closed.correlator.closed = true := d.correlator.closed_close
  refine ⟨⟨rfl, hs.table.pendingCount_eq, fun n r hr => ?_⟩, ⟨rfl, c.shutdown_eq, ?_, ?_⟩,
    fun later hlater => ?_, fun after id r e a? o? hstands hkept => ?_⟩
  · exact ⟨hs.table.entry_mem_iff (hs.table.reply?_eq_some.mp hr).1,
      hs.table.reply?_close_eq hr⟩
  · rw [c.shutdown_eq, hsound.settle_eq_run]
    exact Reaches.refl.run _
  · exact fun id r e o? hstands => hstands.result?_shutdown hs c.now
  · have hafter := hlater.after hsound hclosed
    exact ⟨(hlater.sound hsound).final hafter.closed, hafter.replies⟩
  · exact (hstands.closed hs hkept).result?_poll (hsound.run after)

/-- Three requests: the frame of the first is accepted, the second has timed out while
its frame is in line, and the third has just started. -/
def threeUnderWay : List Move :=
  [.enter 0 "a" Dispatcher.retrieval, .answer 0 (.ok ()), .enter 0 "b" Dispatcher.retrieval,
    .fire 2, .enter 0 "c" Dispatcher.retrieval]

/-- A client with these requests. -/
def busy : Client Unit :=
  { start {} with dispatcher := (Dispatcher.ofConfig {}).run threeUnderWay }

/-- When it is shut down two of them end: the first at once, the third when its frame
is accepted. The second ends then too, but it has timed out. Afterwards there is
nothing left, and nothing can start. -/
theorem busy_ends :
    let accepted := busy.closing.dispatcher.run [.answer 1 (.ok ()), .answer 2 (.ok ())]
    busy.dispatcher.correlator.close.2 = 2
    ∧ busy.shutdown.dispatcher.result? 0 = some (.error .closed)
    ∧ (accepted.poll 1).result? 1 = some (.error (.timeout "b" (.ms 60000)))
    ∧ (accepted.poll 2).result? 2 = some (.error .closed)
    ∧ Final accepted := by
  intro accepted
  have hreached : Reaches (start {}) busy := Reaches.refl.run threeUnderWay
  obtain ⟨⟨hnumber, -⟩, ⟨-, -, -, hfirst⟩, hlater, hends⟩ := shutdown_is_complete_and_final hreached
  have haccepted : Reaches busy.closing { busy.closing with dispatcher := accepted } :=
    Reaches.refl.run _
  have hone : Stands busy.dispatcher 0 (Dispatcher.retrieval.prepared "a") ⟨1, "a"⟩
      (some (.ok ())) none := .waiting rfl rfl
  have htwo : Stands busy.dispatcher 1 (Dispatcher.retrieval.prepared "b") ⟨2, "b"⟩ none
      (some (.error (.timeout "b" (.ms 60000)))) := .sending rfl rfl
  have hthree : Stands busy.dispatcher 2 (Dispatcher.retrieval.prepared "c") ⟨3, "c"⟩ none
      none := .sending rfl rfl
  exact ⟨hnumber.trans rfl, hfirst _ _ _ _ hone, hends _ _ _ _ _ _ htwo (by simp),
    hends _ _ _ _ _ _ hthree (by simp), (hlater _ haccepted).1⟩

end DeviceTwin.Client
