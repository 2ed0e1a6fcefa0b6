/-
The end of all calls.

When the table of replies is closed every subscription in it ends, and
every reply that had an outcome keeps it (`Sound.reply?_close`). From then
on nothing that can happen brings the table back: moves that end
subscriptions find none, a request is refused before it could enter one,
and calls that leave take their replies along (`Sound.after_move`). So the
state after the closing is an absorbing one, and what holds in it holds
from then on (`Final`).

A request that was under way ends by what its subscription had come to
before, or by the closing (`Stands.closed`). If its frame still waits for
room when the table is closed it learns so when the transport answers, and
not before; if its frame was accepted it ends at once.
-/
import DeviceTwin.Proofs.Dispatcher.Emission
import DeviceTwin.Proofs.Dispatcher.Residue

namespace DeviceTwin

namespace Correlator

variable {μ : Type} {c : Correlator μ}

/-- The number of subscriptions in the table is that of replies without an
outcome. -/
theorem Tied.pendingCount_eq (h : Tied c) :
    c.pendingCount = (c.replies.filter (·.outcome.isNone)).length := by
  rw [pendingCount, h.entries_eq, List.length_map]

/-- A reply has no outcome if and only if its subscription is in the table. -/
theorem Tied.entry_mem_iff (h : Tied c) {r : Reply μ} (hr : r ∈ c.replies) :
    r.entry ∈ c.entries ↔ r.outcome = none := by
  rw [h.mem_entries]
  constructor
  · rintro ⟨s, hs, hnone, hentry⟩
    rw [← h.reply_eq hs hr (congrArg Entry.number hentry)]
    exact hnone
  · exact fun hnone => ⟨r, hr, hnone, rfl⟩

/-- Closing ends the subscriptions in the table and touches no other reply. -/
theorem Tied.reply?_close_eq (h : Tied c) {n : Nat} {r : Reply μ} (hr : c.reply? n = some r) :
    c.close.1.reply? n
      = some (if r.entry ∈ c.entries then { r with outcome := some (.error .closed) } else r) := by
  rw [h.reply?_close, hr, Option.map_some]
  obtain ⟨hmem, -⟩ := h.reply?_eq_some.mp hr
  cases ho : r.outcome with
  | none =>
      rw [if_pos ((h.entry_mem_iff hmem).mpr ho), Reply.concluded_of_open ho]
  | some o =>
      have hout : r.entry ∉ c.entries := by
        intro hin
        rw [(h.entry_mem_iff hmem).mp hin] at ho
        cases ho
      rw [if_neg hout, Reply.concluded_of_outcome ho]

theorem closed_resolve_all (o : Outcome μ) (l : List Entry) :
    ∀ c : Correlator μ, (l.foldl (fun c e => c.resolve e o) c).closed = c.closed := by
  induction l with
  | nil => exact fun _ => rfl
  | cons e l ih => exact fun c => ih (c.resolve e o)

/-- A table is closed by closing it. -/
theorem closed_close (c : Correlator μ) : c.close.1.closed = true :=
  closed_resolve_all _ _ _

theorem closed_release (c : Correlator μ) (key : String) (n : Nat) :
    (c.release key n).closed = c.closed := by
  unfold release
  split <;> rfl

/-- Out of an empty table a message comes back. -/
theorem publish_of_entries (h : c.entries = []) (key : Option String) (m : μ) :
    c.publish key m = (c, some m) := by
  have hnone : key.bind c.pending? = none := by
    cases key with
    | none => rfl
    | some key =>
        show c.entries.find? _ = none
        rw [h, List.find?_nil]
  unfold publish
  rw [hnone]

end Correlator

namespace Dispatcher

variable {d : Dispatcher} {id : Nat}

-- ============================================================ after the closing

/-- What there is of a closed state after more has happened: it is closed, and
has no reply that was not there. -/
structure After (d later : Dispatcher) : Prop where
  closed : later.correlator.closed = true
  replies : later.correlator.replies ⊆ d.correlator.replies

/-- What comes later still is later. -/
theorem After.trans {mid later : Dispatcher} (h : After d mid) (h' : After mid later) :
    After d later :=
  ⟨h'.closed, List.Subset.trans h'.replies h.replies⟩

/-- The table of a closed client is empty, and no timer is armed. -/
theorem Sound.timers_eq_nil (hs : Sound d) (hclosed : d.correlator.closed = true) :
    d.correlator.timers = [] := by
  have htimers := hs.table.timers_eq
  rw [hs.table.drained hclosed] at htimers
  exact List.map_eq_nil_iff.mp htimers

/-- A call that leaves a closed client leaves it closed. -/
theorem after_leave (hclosed : d.correlator.closed = true) (call : Call) :
    After d (d.leave call) := by
  unfold leave
  cases call.state.subscription? with
  | none => exact ⟨hclosed, List.Subset.refl _⟩
  | some e =>
      refine ⟨?_, ?_⟩
      · show (d.correlator.release e.key e.number).closed = true
        rw [Correlator.closed_release]
        exact hclosed
      · show (d.correlator.release e.key e.number).replies ⊆ _
        rw [Correlator.replies_release]
        exact List.filter_subset_self _

/-- Nothing that happens to a closed table enters a subscription or gives a reply
another outcome. -/
theorem Sound.after_move (hs : Sound d) (hclosed : d.correlator.closed = true) (m : Move) :
    After d (d.move m) := by
  have hentries := hs.table.drained hclosed
  cases hop : m.op? with
  | some op =>
      rw [d.move_op hop]
      obtain ⟨f, envelope, -, -, rfl⟩ | ⟨n, -, rfl⟩ | ⟨-, rfl⟩ := Move.op?_cases hop
      · show After d { d with correlator := (d.correlator.publish _ _).1 }
        rw [Correlator.publish_of_entries hentries]
        exact ⟨hclosed, List.Subset.refl _⟩
      · have hnone : d.correlator.timer? n = none := by
          rw [Correlator.timer?, hs.timers_eq_nil hclosed, List.find?_nil]
        rw [Correlator.step_fire_none hnone]
        exact ⟨hclosed, List.Subset.refl _⟩
      · show After d { d with correlator := d.correlator.close.1 }
        unfold Correlator.close
        rw [hentries]
        exact ⟨rfl, List.Subset.refl _⟩
  | none =>
      have hchange := d.move_change hop
      generalize d.move m = later at hchange ⊢
      cases hchange with
      | stays | carries | rejects | emits | goesOn => exact ⟨hclosed, List.Subset.refl _⟩
      | admits now r hopen =>
          rw [hclosed] at hopen
          cases hopen
      | leaves => exact after_leave hclosed _
      | ends =>
          obtain ⟨hstill, hreplies⟩ := after_leave hclosed _
          exact ⟨hstill, hreplies⟩

/-- Nor does a run. -/
theorem Sound.after_run (moves : List Move) :
    ∀ {d : Dispatcher}, Sound d → d.correlator.closed = true → After d (d.run moves) := by
  induction moves with
  | nil => exact fun _ hclosed => ⟨hclosed, List.Subset.refl _⟩
  | cons m moves ih =>
      intro d hs hclosed
      have hnow := hs.after_move hclosed m
      exact hnow.trans (ih (hs.move m) hnow.closed)

-- ============================================================== what is refused

/-- A request that is refused as it starts has its error, and is no call. -/
theorem Sound.call?_reject (hs : Sound d) (e : CallError) :
    (d.reject e).call? d.nextCall = none :=
  Lookup.find?_eq_none_iff.mpr fun call hc => Nat.ne_of_lt (hs.given call hc)

/-- It ends as it starts, with its error. -/
theorem Sound.result?_rejected (hs : Sound d) (e : CallError) :
    (d.reject e).result? d.nextCall = some (.error e) :=
  congrArg (Option.map Prod.snd)
    (Lookup.find?_concat_self (x := (d.nextCall, Except.error e)) fun p hp =>
      Nat.ne_of_lt (hs.past p hp))

/-- A closed client refuses every request. -/
theorem enter_closed (hclosed : d.correlator.closed = true) (now : Nat) (fresh : String)
    (r : Request) : d.enter now (r.prepared fresh) = d.reject .closed := by
  obtain ⟨key, hkey⟩ := Option.isSome_iff_exists.mp
    (r.signal.isSome_correlationId_prepared fresh)
  change (r.prepared fresh).signal.correlationId = some key at hkey
  simp only [enter, hkey, Correlator.subscribe, hclosed, if_true]
  rfl

/-- What a client is like from its end on. -/
structure Final (d : Dispatcher) : Prop where
  /-- Its table is empty. -/
  empty : d.correlator.entries = []
  /-- A request fails, -/
  refuses : ∀ now fresh r, (d.request now fresh r).result? d.nextCall = some (.error .closed)
  /-- and its frame never comes to the transport. -/
  silent : ∀ now fresh r, d.handed (.request now fresh r) = []
    ∧ (d.request now fresh r).outbox = (d.outbox.expire now).1
  /-- No frame is taken for a call: if there is a signal in it, it comes back. -/
  returns : ∀ now f, (d.inbound now f).2 = f.toSignal.map some

/-- A refused request comes to nothing but what is due anyway. -/
theorem Sound.request_closed (hs : Sound d) (hclosed : d.correlator.closed = true) (now : Nat)
    (fresh : String) (r : Request) :
    d.request now fresh r = (d.reject .closed).settle now := by
  simp only [request, enter_closed hclosed, hs.call?_reject, Option.isSome_none,
    Bool.false_eq_true, if_false]

/-- A closed client is at its end. -/
theorem Sound.final (hs : Sound d) (hclosed : d.correlator.closed = true) : Final d where
  empty := hs.table.drained hclosed
  refuses now fresh r := by
    have hgone := hs.call?_reject .closed
    rw [hs.request_closed hclosed, (hs.reject .closed).settle_eq_run,
      (gone_run _ (Nat.lt_succ_self _) hgone).2]
    exact hs.result?_rejected .closed
  silent now fresh r := by
    refine ⟨?_, ?_⟩
    · simp only [handed, enter_closed hclosed, hs.call?_reject, Option.isSome_none,
        Bool.false_eq_true, if_false]
    · rw [hs.request_closed hclosed, (hs.reject .closed).outbox_settle]
      rfl
  returns now f := by
    have hentries := hs.table.drained hclosed
    show (d.take f).2 = (f.decode >>= Envelope.toSignal).map some
    cases hf : f.decode with
    | error e =>
        simp only [take, hf]
        rfl
    | ok envelope =>
        simp only [take, hf, Correlator.publish_of_entries hentries]
        rfl

-- ================================================================ the shutdown

/-- A request that was under way when the table is closed ends by what its
subscription came to before, or by the closing. -/
theorem Stands.closed {r : Request} {e : Correlator.Entry} {a? : Option Outbox.Answer}
    {o? : Option (Outcome Envelope)} (h : Stands d id r e a? o?) (hs : Sound d)
    {after : List Move} (hkept : .drop id ∉ after) :
    Stands ((d.move .close).run after) id r e (a?.or (after.findSome? (Move.answer? id)))
      (o?.or (some (.error .closed))) := by
  have hclosed : Stands (d.move .close) id r e a? (o?.or (some (.error .closed))) :=
    h.other hs nofun
  have hend := Stands.run hkept (hs.move .close) hclosed
  rwa [Option.or_assoc, Option.some_or] at hend

/-- A request whose frame was accepted has ended when the shutdown is over. -/
theorem Stands.result?_shutdown {r : Request} {e : Correlator.Entry}
    {o? : Option (Outcome Envelope)} (h : Stands d id r e (some (.ok ())) o?) (hs : Sound d)
    (now : Nat) : (d.shutdown now).result? id
      = some ((r.conclude (o?.getD (.error .closed))).map some) := by
  have hclosed : Sound (d.move .close) := hs.move .close
  -- it has looked at its reply when the client has settled
  have hsettled : Settled ((d.move .close).settle now) := by
    rw [hclosed.settle_eq]
    exact (hclosed.run _).settled_conclude
  have hend := (h.closed hs ((d.move .close).drop_not_mem_settling now id)).result?_poll
    (hclosed.run _)
  rw [← hclosed.settle_eq_run, (hsettled id).poll_eq, Option.some_or] at hend
  show ((d.move .close).settle now).result? id = _
  rw [hend]
  cases o? <;> rfl

end Dispatcher

end DeviceTwin
