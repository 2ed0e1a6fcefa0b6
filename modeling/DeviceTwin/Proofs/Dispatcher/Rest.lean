/-
Between operations nothing is due.

Settling lets everything happen that is due, so when it is over no timer
has come to its deadline, nobody in line has waited too long and no call
has anything to do (`AtRest`). To settle once more at the same time does
nothing (`AtRest.settle_eq`). The timers are the part that needs an
argument: a timer that fires is gone, because on a sound table it is armed
for a subscription that is pending, and whatever the ends of calls do to
the table afterwards arms no new one.
-/
import DeviceTwin.Proofs.Dispatcher.Punctual

namespace DeviceTwin

namespace Correlator

variable {μ : Type} {c : Correlator μ}

/-- A timer that fires is gone, and no other. -/
theorem Tied.timers_fire (h : Tied c) {t : Timer} (ht : t ∈ c.timers) :
    (c.fire t).timers = c.timers.filter (·.number != t.number) := by
  have hholds : c.holds t.key t.number = true := h.holds_iff.mpr (h.timer_mem ht)
  unfold fire
  rw [if_pos hholds]
  rfl

/-- Timers that fire one after the other leave those that did not. -/
theorem Sound.mem_timers_fire_all (l : List Timer) :
    ∀ {c : Correlator μ}, Sound c → (l.map (·.number)).Nodup → l ⊆ c.timers →
      ∀ u ∈ (l.foldl Correlator.fire c).timers, u ∈ c.timers ∧ u.number ∉ l.map (·.number) := by
  induction l with
  | nil => exact fun _ _ _ u hu => ⟨hu, List.not_mem_nil⟩
  | cons t l ih =>
      intro c h hnodup hl u hu
      rw [List.map_cons, List.nodup_cons] at hnodup
      obtain ⟨ht, hl⟩ := List.cons_subset.mp hl
      have htimers := h.timers_fire ht
      have hrest : l ⊆ (c.fire t).timers := by
        intro v hv
        rw [htimers]
        refine List.mem_filter.mpr ⟨hl hv, bne_iff_ne.mpr fun hn => hnodup.1 ?_⟩
        rw [← hn]
        exact List.mem_map_of_mem hv
      obtain ⟨hmem, hout⟩ := ih (h.fire t) hnodup.2 hrest u hu
      rw [htimers] at hmem
      obtain ⟨hold, hne⟩ := List.mem_filter.mp hmem
      refine ⟨hold, fun hin => ?_⟩
      rcases List.mem_cons.mp hin with hn | hin
      · exact bne_iff_ne.mp hne hn
      · exact hout hin

/-- When all timers that are due have fired, none is due. -/
theorem Sound.lt_of_mem_expire (h : Sound c) {now : Nat} {t : Timer}
    (ht : t ∈ (c.expire now).timers) : now < t.deadline := by
  have hnodup : ((c.timers.filter (·.deadline ≤ now)).map (·.number)).Nodup :=
    (List.filter_sublist.map _).nodup h.timer_numbers
  obtain ⟨hold, hout⟩ :=
    Sound.mem_timers_fire_all _ h hnodup (List.filter_subset_self _) t ht
  refine Nat.lt_of_not_le fun hdue => hout (List.mem_map_of_mem ?_)
  exact List.mem_filter.mpr ⟨hold, decide_eq_true hdue⟩

end Correlator

namespace Dispatcher

variable {d : Dispatcher} {now : Nat}

-- =================================================================== the rest

/-- Nothing is due. -/
structure AtRest (d : Dispatcher) (now : Nat) : Prop where
  timers : ∀ t ∈ d.correlator.timers, now < t.deadline
  line : ∀ w ∈ d.outbox.line, w.isDue now = false
  calls : Settled d

theorem atRest_ofConfig (config : Config) (now : Nat) : AtRest (ofConfig config) now where
  timers := by simp [ofConfig]
  line := by simp [ofConfig]
  calls := settled_ofConfig config

/-- A call that ends or goes on arms no timer. -/
theorem timers_about {m : Move} {id : Nat} (hm : m.call? = some id) :
    (d.move m).correlator.timers ⊆ d.correlator.timers := by
  obtain heq | ⟨_, _, _, _, -, heq⟩ | ⟨call, -, heq | ⟨_, heq⟩⟩ := d.move_about hm
  · rw [heq]
    exact List.Subset.refl _
  · rw [heq]
    exact List.Subset.refl _
  · rw [heq]
    exact (d.shrinks_leave call).timers
  · rw [heq]
    exact (d.shrinks_leave call).timers

theorem timers_run_about (moves : List Move) :
    ∀ d : Dispatcher, (∀ m ∈ moves, ∃ id, m.call? = some id) →
      (d.run moves).correlator.timers ⊆ d.correlator.timers := by
  induction moves with
  | nil => exact fun _ _ => List.Subset.refl _
  | cons m moves ih =>
      intro d hm
      obtain ⟨id, hid⟩ := hm m List.mem_cons_self
      exact List.Subset.trans (ih (d.move m) fun m' hm' => hm m' (List.mem_cons_of_mem _ hm'))
        (timers_about hid)

/-- Settling arms no timer, and leaves none that is due. -/
theorem timers_settle (d : Dispatcher) (now : Nat) :
    (d.settle now).correlator.timers ⊆ (d.correlator.expire now).timers := by
  let expired : Dispatcher :=
    { d with correlator := d.correlator.expire now, outbox := (d.outbox.expire now).1 }
  let answered := expired.run (answers (d.outbox.expire now).2)
  have hsettle : d.settle now
      = expired.run (answers (d.outbox.expire now).2
          ++ answered.calls.map fun call => .poll call.id) := by
    rw [run_append, run_polls]
    show _ = answered.conclude
    rw [show answered = (d.outbox.expire now).2.foldl deliver expired from run_answers ..]
    rfl
  rw [hsettle]
  refine timers_run_about _ expired fun m hm => ?_
  rcases List.mem_append.mp hm with hanswer | hpoll
  · obtain ⟨v, -, rfl⟩ := List.mem_map.mp hanswer
    exact ⟨v.1, rfl⟩
  · obtain ⟨call, -, rfl⟩ := List.mem_map.mp hpoll
    exact ⟨call.id, rfl⟩

/-- A client that has settled is at rest. -/
theorem Sound.atRest_settle (hs : Sound d) (now : Nat) : AtRest (d.settle now) now where
  timers t ht := hs.table.lt_of_mem_expire (d.timers_settle now ht)
  line w hw := by
    rw [hs.outbox_settle] at hw
    simpa using (List.mem_filter.mp hw).2
  calls := by
    rw [hs.settle_eq]
    exact (hs.run _).settled_conclude

/-- An operation at a time leaves nothing that is due then. -/
theorem Sound.atRest_operate (hs : Sound d) (h : AtRest d now) {op : Operation}
    (hop : ∀ t ∈ op.now?, t = now) : AtRest (d.operate op) now := by
  cases hnow : op.now? with
  | some t =>
      obtain rfl := hop t hnow
      rw [operate_opening, hnow]
      exact (hs.run _).atRest_settle t
  | none =>
      -- an offered frame changes nothing but the queue
      cases op with
      | trySend f => exact { h with line := (d.outbox.line_trySend f).symm ▸ h.line }
      | request | emitFrame | cancel | inbound | receive | disconnect | shutdown
      | settle => cases hnow

-- ============================================================== nothing to do

theorem Settled.conclude_eq (h : Settled d) : d.conclude = d := by
  have hpolls : ∀ ids : List Nat, ids.foldl poll d = d := by
    intro ids
    induction ids with
    | nil => rfl
    | cons id ids ih => rw [List.foldl_cons, (h id).poll_eq, ih]
  exact hpolls _

/-- A client at rest has nothing to settle. -/
theorem AtRest.settle_eq (h : AtRest d now) : d.settle now = d := by
  have htimers : d.correlator.timers.filter (·.deadline ≤ now) = [] := by
    refine List.filter_eq_nil_iff.mpr fun t ht => ?_
    simpa using h.timers t ht
  have hexpire : d.correlator.expire now = d.correlator := by
    rw [Correlator.expire, htimers]
    rfl
  have hdue : d.outbox.line.filter (·.isDue now) = [] := by
    refine List.filter_eq_nil_iff.mpr fun w hw => ?_
    simp [h.line w hw]
  have hstay : d.outbox.line.filter (!·.isDue now) = d.outbox.line := by
    refine List.filter_eq_self.mpr fun w hw => ?_
    simp [h.line w hw]
  have houtbox : d.outbox.expire now = (d.outbox, []) := by
    rw [Outbox.expire, hdue, hstay]
    rfl
  unfold settle
  rw [hexpire, houtbox]
  exact h.calls.conclude_eq

end Dispatcher

end DeviceTwin
