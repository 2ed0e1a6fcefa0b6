/-
What ties the calls of a client to the table of replies.

Calls are known by numbers that are given out once, and a call that is
still there has not ended (`Sound.ids` to `Sound.past`). Every call that
waits for a reply holds one, and nobody else holds any: the replies of
the correlator are those of the calls, in order (`Sound.held`). So a
subscription belongs to one call, and what happens to the call of another
number does not touch it.

Every move keeps this (`Sound.move`). A move is one of few changes: the
table settles subscriptions by itself, a call is added, goes on in
another state, or leaves.
-/
import DeviceTwin.Proofs.Dispatcher.Move

namespace DeviceTwin

/-- A call that goes on keeps its number. -/
@[simp] theorem Call.goOn_id (id : Nat) (state : CallState) (call : Call) :
    (call.goOn id state).id = call.id := by
  unfold goOn
  split
  case isTrue h => exact h.symm
  case isFalse => rfl

namespace Dispatcher

open Correlator (Settles)

variable {d : Dispatcher}

-- ============================================================ the invariant

/-- The calls and the table of replies agree. -/
structure Sound (d : Dispatcher) : Prop where
  table : Correlator.Sound d.correlator
  /-- No two calls have one number. -/
  ids : (d.calls.map (·.id)).Nodup
  /-- No call ended twice. -/
  once : (d.finished.map (·.1)).Nodup
  /-- A call that is there has not ended. -/
  apart : ∀ call ∈ d.calls, ∀ p ∈ d.finished, p.1 ≠ call.id
  /-- The numbers of calls were given out. -/
  given : ∀ call ∈ d.calls, call.id < d.nextCall
  past : ∀ p ∈ d.finished, p.1 < d.nextCall
  /-- The replies that are held are those of the calls. -/
  held : d.calls.filterMap (·.state.subscription?)
    = d.correlator.replies.map Correlator.Reply.entry
  /-- Every timer is armed for the span that the client waits. -/
  spans : ∀ t ∈ d.correlator.timers, t.span = d.timeout

theorem sound_ofConfig (config : Config) : Sound (ofConfig config) where
  table := Correlator.sound_empty
  ids := List.nodup_nil
  once := List.nodup_nil
  apart := by simp [ofConfig]
  given := by simp [ofConfig]
  past := by simp [ofConfig]
  held := rfl
  spans := by simp [ofConfig]

namespace Sound

/-- Looking for a number finds the call with the number. -/
theorem call?_eq_some (h : Sound d) {id : Nat} {call : Call} :
    d.call? id = some call ↔ call ∈ d.calls ∧ call.id = id :=
  Lookup.find?_eq_some_iff h.ids

/-- A call that is there has no result. -/
theorem result?_eq_none (h : Sound d) {id : Nat} {call : Call}
    (hc : d.call? id = some call) : d.result? id = none := by
  obtain ⟨hmem, rfl⟩ := h.call?_eq_some.mp hc
  refine Option.map_eq_none_iff.mpr (Lookup.find?_eq_none_iff.mpr ?_)
  exact h.apart call hmem

/-- The subscription of a call is the entry of a held reply. -/
theorem exists_reply (h : Sound d) {call : Call} (hc : call ∈ d.calls)
    {e : Correlator.Entry} (he : call.state.subscription? = some e) :
    ∃ r, d.correlator.reply? e.number = some r ∧ r.entry = e := by
  have hmem : e ∈ d.calls.filterMap (·.state.subscription?) :=
    List.mem_filterMap.mpr ⟨call, hc, he⟩
  rw [h.held] at hmem
  obtain ⟨r, hr, rfl⟩ := List.mem_map.mp hmem
  exact ⟨r, h.table.reply?_eq_some.mpr ⟨hr, rfl⟩, rfl⟩

/-- A call is known by the number of its subscription. -/
theorem eq_of_number (h : Sound d) {call call' : Call}
    (hc : call ∈ d.calls) (hc' : call' ∈ d.calls)
    {e e' : Correlator.Entry} (he : call.state.subscription? = some e)
    (he' : call'.state.subscription? = some e')
    (hn : e.number = e'.number) : call = call' := by
  have hnumbers : ((d.calls.filterMap (·.state.subscription?)).map
      (·.number)).Nodup := by
    rw [h.held, List.map_map]
    exact h.table.numbers
  exact Lookup.eq_of_filterMap hnumbers hc hc' he he' hn

-- ================================================================ the changes

theorem settle (h : Sound d) {c : Correlator Envelope}
    (hc : Correlator.Sound c) (hs : Settles d.correlator c) :
    Sound { d with correlator := c } where
  table := hc
  ids := h.ids
  once := h.once
  apart := h.apart
  given := h.given
  past := h.past
  held := h.held.trans hs.held.symm
  spans t ht := h.spans t (hs.timers ht)

theorem skip (h : Sound d) {next : Nat} (hnext : d.correlator.next ≤ next) :
    Sound { d with correlator := { d.correlator with next } } :=
  ⟨h.table.skip hnext, h.ids, h.once, h.apart, h.given, h.past, h.held,
    h.spans⟩

theorem reject (h : Sound d) (e : CallError) : Sound (d.reject e) where
  table := h.table
  ids := h.ids
  once := by
    refine Lookup.nodup_concat (x := (d.nextCall, Except.error e)) h.once ?_
    exact fun p hp => Nat.ne_of_lt (h.past p hp)
  apart := by
    intro call hc
    refine Lookup.forall_mem_concat (h.apart call hc) ?_
    exact (Nat.ne_of_lt (h.given call hc)).symm
  given call hc := Nat.lt_succ_of_lt (h.given call hc)
  past := by
    refine Lookup.forall_mem_concat (fun p hp => ?_) (Nat.lt_succ_self _)
    exact Nat.lt_succ_of_lt (h.past p hp)
  held := h.held
  spans := h.spans

/-- A call may start, with the reply of the newest subscription or
without one. -/
theorem enroll {state : CallState} {c : Correlator Envelope}
    (h : Sound d) (hc : Correlator.Sound c)
    (hheld : c.replies.map Correlator.Reply.entry
      = d.correlator.replies.map Correlator.Reply.entry
        ++ state.subscription?.toList)
    (hspans : ∀ t ∈ c.timers, t.span = d.timeout) :
    Sound ({ d with correlator := c }.enroll state) where
  table := hc
  ids := by
    refine Lookup.nodup_concat (x := Call.mk d.nextCall state) h.ids ?_
    exact fun call hmem => Nat.ne_of_lt (h.given call hmem)
  once := h.once
  apart := by
    refine Lookup.forall_mem_concat h.apart fun p hp => ?_
    exact Nat.ne_of_lt (h.past p hp)
  given := by
    refine Lookup.forall_mem_concat (fun call hmem => ?_)
      (Nat.lt_succ_self _)
    exact Nat.lt_succ_of_lt (h.given call hmem)
  past p hp := Nat.lt_succ_of_lt (h.past p hp)
  held := by
    show (d.calls ++ [Call.mk d.nextCall state]).filterMap _
      = c.replies.map _
    rw [List.filterMap_append, h.held, hheld]
    cases hs : state.subscription? with
    | none => simp [hs]
    | some e => simp [hs]
  spans := hspans

theorem goOn (h : Sound d) {id : Nat} {state : CallState}
    (hs : ∀ call ∈ d.calls, call.id = id →
      call.state.subscription? = state.subscription?) :
    Sound (d.goOn id state) where
  table := h.table
  ids := by
    have hid : Call.id ∘ Call.goOn id state = Call.id :=
      funext fun call => call.goOn_id id state
    show ((d.calls.map (Call.goOn id state)).map Call.id).Nodup
    rw [List.map_map, hid]
    exact h.ids
  once := h.once
  apart := by
    intro call hmem p hp
    obtain ⟨call', hmem', rfl⟩ := List.mem_map.mp hmem
    rw [Call.goOn_id]
    exact h.apart call' hmem' p hp
  given := by
    intro call hmem
    obtain ⟨call', hmem', rfl⟩ := List.mem_map.mp hmem
    rw [Call.goOn_id]
    exact h.given call' hmem'
  past := h.past
  held := by
    show (d.calls.map (Call.goOn id state)).filterMap _
      = d.correlator.replies.map _
    rw [List.filterMap_map, ← h.held]
    refine List.filterMap_congr fun call hmem => ?_
    simp only [Function.comp_apply, Call.goOn]
    split
    case isTrue heq => exact (hs call hmem heq).symm
    case isFalse => rfl
  spans := h.spans

/-- The key of a subscription that a call holds is the key of its
reply. -/
theorem key_eq (h : Sound d) {call : Call} (hc : call ∈ d.calls)
    {e : Correlator.Entry} (he : call.state.subscription? = some e) :
    ∀ r ∈ d.correlator.replies, r.number = e.number → r.key = e.key := by
  intro r hr hn
  obtain ⟨r', hr', hentry⟩ := h.exists_reply hc he
  rw [h.table.key_eq hr' r hr hn, ← hentry]
  rfl

/-- A call may leave, with its reply. -/
theorem leave (h : Sound d) {call : Call} (hc : call ∈ d.calls) :
    Sound (d.leave call) := by
  have hids : ((d.calls.filter (·.id != call.id)).map (·.id)).Nodup :=
    (List.filter_sublist.map _).nodup h.ids
  have hapart : ∀ other ∈ d.calls.filter (·.id != call.id),
      ∀ p ∈ d.finished, p.1 ≠ other.id :=
    fun other hother => h.apart other (List.mem_of_mem_filter hother)
  have hgiven : ∀ other ∈ d.calls.filter (·.id != call.id),
      other.id < d.nextCall :=
    fun other hother => h.given other (List.mem_of_mem_filter hother)
  cases he : call.state.subscription? with
  | none =>
      -- no other call loses its subscription, and this one has none
      have hsame : (d.calls.filter (·.id != call.id)).filterMap
            (·.state.subscription?)
          = d.calls.filterMap (·.state.subscription?) := by
        rw [Lookup.filterMap_filter (q := fun _ => true), List.filter_true]
        intro other hother e he'
        have hne : other.id ≠ call.id := by
          intro heq
          rw [List.inj_on_of_nodup_map h.ids hother hc heq, he] at he'
          cases he'
        simpa using hne
      unfold Dispatcher.leave
      rw [he]
      exact ⟨h.table, hids, h.once, hapart, hgiven, h.past,
        hsame.trans h.held, h.spans⟩
  | some e =>
      have hrelease := h.table.release_eq (h.key_eq hc he)
      have hsound := h.table.release (h.key_eq hc he)
      have hsame : (d.calls.filter (·.id != call.id)).filterMap
            (·.state.subscription?)
          = (d.calls.filterMap (·.state.subscription?)).filter
            (·.number != e.number) := by
        refine Lookup.filterMap_filter fun other hother e' he' => ?_
        have hiff : other.id = call.id ↔ e'.number = e.number := by
          constructor
          · intro heq
            rw [List.inj_on_of_nodup_map h.ids hother hc heq, he] at he'
            rw [Option.some.inj he']
          · intro hn
            rw [h.eq_of_number hother hc he' he hn]
        simp only [bne, beq_eq_decide, hiff]
      have hheld : (d.calls.filter (·.id != call.id)).filterMap
            (·.state.subscription?)
          = (d.correlator.release e.key e.number).replies.map
            Correlator.Reply.entry := by
        rw [hsame, h.held, hrelease, List.filter_map]
        rfl
      have hspans : ∀ t ∈ (d.correlator.release e.key e.number).timers,
          t.span = d.timeout := by
        rw [hrelease]
        exact fun t ht => h.spans t (List.mem_of_mem_filter ht)
      unfold Dispatcher.leave
      rw [he]
      exact ⟨hsound, hids, h.once, hapart, hgiven, h.past, hheld, hspans⟩

theorem finish (h : Sound d) {call : Call} (hc : call ∈ d.calls)
    (result : CallResult) : Sound (d.finish call result) := by
  obtain ⟨htable, hids, -, hapart, hgiven, -, hheld, hspans⟩ := h.leave hc
  refine ⟨htable, hids, ?_, ?_, hgiven, ?_, hheld, hspans⟩
  · exact Lookup.nodup_concat (x := (call.id, result)) h.once
      (h.apart call hc)
  · intro other hother
    refine Lookup.forall_mem_concat (hapart other hother) ?_
    have hne := (List.mem_filter.mp hother).2
    exact Ne.symm (by simpa using hne)
  · exact Lookup.forall_mem_concat h.past (h.given call hc)

-- ================================================================== the moves

/-- Every change keeps calls and table in agreement. -/
theorem change (h : Sound d) {about : Option Nat} {d' : Dispatcher}
    (hd : Change d about d') : Sound d' := by
  cases hd with
  | stays => exact h
  | carries outbox =>
      exact ⟨h.table, h.ids, h.once, h.apart, h.given, h.past, h.held,
        h.spans⟩
  | rejects hnext e => exact (h.skip hnext).reject e
  | emits => exact h.enroll h.table (by simp [CallState.subscription?]) h.spans
  | admits now r hopen hfree =>
      refine h.enroll (h.table.register now d.timeout hopen hfree) ?_ ?_
      · show (d.correlator.replies ++ [_]).map _ = _
        rw [List.map_append]
        rfl
      · exact Lookup.forall_mem_concat h.spans rfl
  | goesOn _ hc =>
      refine h.goOn fun call hmem hid => ?_
      have hcall := h.call?_eq_some.mpr ⟨hmem, hid⟩
      rw [hc] at hcall
      obtain rfl := Option.some.inj hcall
      rfl
  | leaves _ hc => exact h.leave (h.call?_eq_some.mp hc).1
  | ends _ hc result => exact h.finish (h.call?_eq_some.mp hc).1 result

/-- Every move keeps calls and table in agreement. -/
theorem move (h : Sound d) (m : Move) : Sound (d.move m) := by
  cases hop : m.op? with
  | none => exact h.change (d.move_change hop)
  | some op =>
      rw [d.move_op hop]
      exact h.settle (h.table.step op) (Move.settles hop _)

theorem run (h : Sound d) (moves : List Move) : Sound (d.run moves) := by
  induction moves generalizing d with
  | nil => exact h
  | cons m moves ih => exact ih (h.move m)

end Sound

end Dispatcher

end DeviceTwin
