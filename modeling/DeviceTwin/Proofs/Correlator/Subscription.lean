/-
The subscriptions of a run, and how each of them ends.

A `Subscription` of a run is a place in it where a subscription was
admitted, with the reply that its owner got. What follows such a place
is said in two parts.

- The reply. As long as its owner holds it, it keeps its key and any
  outcome that it has (`Sound.run_held`); once it was let go of, its
  number never has a reply again (`Sound.run_released`).
- The table. An entry and a timer come from a subscription and from
  nothing else (`Subscription.exists_of_timer`), because every other
  operation only takes away (`step_cases`).

Together with the invariant this is `subscriptions_end_once`: a
subscription is in the table, with its timer armed, exactly as long as
its owner holds its reply and the reply has no outcome, and an outcome
that is there stays.
-/
import DeviceTwin.Proofs.Correlator.Run

namespace DeviceTwin.Correlator

variable {μ : Type} {c : Correlator μ}

-- ============================================================ held replies

/-- A held reply that nobody lets go of is held after a run, with its
key and with the outcome that it has. -/
theorem Sound.run_held (h : Sound c) {n : Nat} {r : Reply μ}
    (hr : c.reply? n = some r) {later : List (Op μ)}
    (hheld : .release n ∉ later) :
    ∃ s, (c.run later).reply? n = some s ∧ s.key = r.key
      ∧ ∀ o, r.outcome = some o → s.outcome = some o := by
  refine (Sound.run_keeps (P := fun c => ∃ s, c.reply? n = some s
    ∧ s.key = r.key ∧ ∀ o, r.outcome = some o → s.outcome = some o)
    ?_ h ⟨r, hr, rfl, fun _ ho => ho⟩).2
  rintro c op hop h ⟨s, hs, hkey, ho⟩
  have hne : op ≠ .release n := fun heq => hheld (heq ▸ hop)
  refine ⟨_, h.reply?_step_some hs hne, hkey, fun o hro => ?_⟩
  simp [Reply.after, ho o hro]

/-- A number that was given out and has no reply has none after a run. -/
theorem Sound.run_gone (h : Sound c) {n : Nat} (hn : n < c.next)
    (hr : c.reply? n = none) (later : List (Op μ)) :
    n < (c.run later).next ∧ (c.run later).reply? n = none :=
  (Sound.run_keeps (P := fun c => n < c.next ∧ c.reply? n = none)
    (fun c op _ h hp =>
      ⟨Nat.lt_of_lt_of_le hp.1 (c.next_le_step op),
        h.reply?_step_none hp.1 hp.2 op⟩) h ⟨hn, hr⟩).2

/-- After its reply was let go of, a number never has one again. -/
theorem Sound.run_released (h : Sound c) {n : Nat} (hn : n < c.next)
    {later : List (Op μ)} (hgone : .release n ∈ later) :
    (c.run later).reply? n = none := by
  obtain ⟨before, after, rfl⟩ := List.append_of_mem hgone
  have hb := h.run before
  have hnext : n < ((c.run before).step (.release n)).1.next :=
    Nat.lt_of_lt_of_le (Nat.lt_of_lt_of_le hn (c.next_le_run before))
      (next_le_step _ _)
  rw [run_append, run_cons]
  exact ((hb.step _).run_gone hnext (hb.reply?_step_release n) after).2

/-- An outcome stays until its reply is let go of. -/
theorem Sound.run_outcome (h : Sound c) {n : Nat} {o : Outcome μ}
    (ho : c.outcome? n = some o) {later : List (Op μ)}
    (hheld : .release n ∉ later) : (c.run later).outcome? n = some o := by
  obtain ⟨r, hr, hro⟩ := Option.bind_eq_some_iff.mp ho
  obtain ⟨s, hs, -, hkeep⟩ := h.run_held hr hheld
  exact Option.bind_eq_some_iff.mpr ⟨s, hs, hkeep o hro⟩

/-- An outcome is that of a number that was given out. -/
theorem Sound.lt_next_of_outcome (h : Sound c) {n : Nat} {o : Outcome μ}
    (ho : c.outcome? n = some o) : n < c.next := by
  obtain ⟨r, hr, -⟩ := Option.bind_eq_some_iff.mp ho
  obtain ⟨hmem, rfl⟩ := h.reply?_eq_some.mp hr
  exact h.fresh r hmem

-- =========================================================== subscriptions

/-- A subscription that was admitted in a run: what went before it, what
it was, what came after it, and the reply that its owner got. -/
structure Subscription (ops : List (Op μ)) where
  before : List (Op μ)
  now : Nat
  key : String
  span : Span
  after : List (Op μ)
  reply : Reply μ
  ops_eq : ops = before ++ .subscribe now key span :: after
  admitted : ((run {} before).step (.subscribe now key span)).2
    = .subscribed (.ok reply)

/-- A subscription that has a reply was admitted. -/
theorem step_admits {now : Nat} {key : String} {span : Span}
    {r : Reply μ}
    (h : (c.step (.subscribe now key span)).2 = .subscribed (.ok r)) :
    (c.step (.subscribe now key span)).1 = c.register now key span
      ∧ r = c.newReply now key span := by
  obtain ⟨-, hs⟩ | ⟨-, hs⟩ | ⟨-, -, hs⟩ := c.subscribe_cases now key span
  · simp [step, hs] at h
  · simp [step, hs] at h
  · rw [step, hs] at h ⊢
    exact ⟨rfl, by simpa using h.symm⟩

namespace Subscription

variable {ops : List (Op μ)}

/-- The reply is the one that was made for it. -/
theorem reply_eq (s : Subscription ops) :
    s.reply = (run {} s.before).newReply s.now s.key s.span :=
  (step_admits s.admitted).2

/-- Its number was the next one. -/
theorem number_eq (s : Subscription ops) :
    s.reply.number = (run {} s.before).next := by
  rw [s.reply_eq]
  rfl

/-- The reply has the key of the subscription. -/
theorem key_eq (s : Subscription ops) : s.reply.key = s.key := by
  rw [s.reply_eq]
  rfl

/-- The correlator right after the subscription. -/
def entered (s : Subscription ops) : Correlator μ :=
  (run {} s.before).register s.now s.key s.span

/-- It is sound there. -/
theorem entered_sound (s : Subscription ops) : Sound s.entered := by
  rw [entered, ← (step_admits s.admitted).1]
  exact (sound_empty.run s.before).step _

/-- The run is what is done after the subscription. -/
theorem run_eq (s : Subscription ops) :
    run {} ops = s.entered.run s.after := by
  conv_lhs => rw [s.ops_eq]
  rw [run_append, run_cons, (step_admits s.admitted).1]
  rfl

/-- The number is not given out again. -/
theorem number_lt_next (s : Subscription ops) :
    s.reply.number < s.entered.next := by
  rw [s.number_eq]
  exact Nat.lt_succ_self _

/-- The reply is held from the beginning. -/
theorem reply?_entered (s : Subscription ops) :
    s.entered.reply? s.reply.number = some s.reply := by
  rw [entered, (sound_empty.run s.before).reply?_register, s.number_eq,
    if_pos rfl, s.reply_eq]

/-- A subscription that is admitted is in the table. -/
theorem entry_mem_entered (s : Subscription ops) :
    s.reply.entry ∈ s.entered.entries := by
  refine s.entered_sound.mem_entries.mpr ⟨s.reply, ?_, ?_, rfl⟩
  · exact (s.entered_sound.reply?_eq_some.mp s.reply?_entered).1
  · rw [s.reply_eq]
    rfl

/-- A subscription is in the table exactly as long as its owner holds
its reply and the reply has no outcome. -/
theorem pending_iff (s : Subscription ops) :
    s.reply.entry ∈ (run {} ops).entries
      ↔ (run {} ops).outcome? s.reply.number = none
        ∧ .release s.reply.number ∉ s.after := by
  rw [show s.reply.entry = ⟨s.reply.number, s.reply.key⟩ from rfl,
    (sound_empty.run ops).toTied.pending_iff]
  by_cases hheld : .release s.reply.number ∈ s.after
  · have hnone := s.entered_sound.run_released s.number_lt_next hheld
    rw [← s.run_eq] at hnone
    simp [hnone, hheld]
  · obtain ⟨r, hr, hkey, -⟩ :=
      s.entered_sound.run_held s.reply?_entered hheld
    rw [← s.run_eq] at hr
    simp [hr, hkey, hheld, outcome?]

/-- A timer that is armed for the number of a subscription is the one that
it was admitted with. -/
theorem timer_eq (s : Subscription ops) {t : Timer}
    (ht : t ∈ (run {} ops).timers) (hn : t.number = s.reply.number) :
    t = ⟨s.reply.number, s.key, s.reply.deadline, s.span⟩ := by
  have hlt := s.number_lt_next
  rw [s.run_eq] at ht
  rcases mem_timers_run ht with hentered | hnew
  · rcases List.mem_append.mp hentered with hold | hown
    · -- an older timer has a smaller number
      have hbefore := sound_empty.run s.before
      obtain ⟨r, hr, -, hentry⟩ := hbefore.mem_entries.mp (hbefore.timer_mem hold)
      have hfresh := hbefore.fresh r hr
      have hnumber : r.number = t.number := congrArg Entry.number hentry
      rw [s.number_eq] at hn
      omega
    · rw [List.mem_singleton.mp hown, s.reply_eq]
      rfl
  · omega

end Subscription

/-- Every armed timer was armed for a subscription. -/
theorem Subscription.exists_of_timer {ops : List (Op μ)} {t : Timer}
    (ht : t ∈ (run {} ops).timers) :
    ∃ s : Subscription ops,
      t = ⟨s.reply.number, s.key, s.reply.deadline, s.span⟩ := by
  have hstart : t ∉ ({} : Correlator μ).timers := by simp
  obtain ⟨before, now, key, span, after, rfl, hstep, hb, ha⟩ :=
    exists_admission (P := fun c => t ∈ c.timers) (fun h ht => h.timers ht)
      hstart ht
  refine ⟨⟨before, now, key, span, after, _, rfl,
    congrArg Prod.snd hstep⟩, ?_⟩
  rcases List.mem_append.mp ha with ht | ht
  · exact absurd ht hb
  · exact List.mem_singleton.mp ht

/-- Every entry is that of a subscription, under the key that it was
subscribed with. -/
theorem Subscription.exists_of_entry {ops : List (Op μ)} {e : Entry}
    (he : e ∈ (run {} ops).entries) :
    ∃ s : Subscription ops, s.reply.number = e.number ∧ s.key = e.key := by
  have h := sound_empty.run ops
  obtain ⟨t, ht, rfl⟩ := h.exists_timer he
  obtain ⟨s, hs⟩ := exists_of_timer (h.timer?_eq_some.mp ht).1
  rw [hs]
  exact ⟨s, rfl, rfl⟩

/-- Every subscription ends once. At every time of every run

- the table has no number twice, and every entry stands under the key
  that it was subscribed with;
- a subscription is in the table as long as its owner holds its reply
  and the reply has no outcome, and no longer;
- one timer is armed for every entry and none besides, with the span and
  the deadline of its subscription;
- an outcome stays as it is whatever happens later, until its reply is
  let go of, and then the number has no reply ever again. -/
theorem subscriptions_end_once (ops : List (Op μ)) :
    let c := run {} ops
    (c.entries.map (·.number)).Nodup
    ∧ (∀ e ∈ c.entries, ∃ s : Subscription ops,
        s.reply.number = e.number ∧ s.key = e.key)
    ∧ (∀ s : Subscription ops, s.reply.entry ∈ c.entries
        ↔ c.outcome? s.reply.number = none
          ∧ .release s.reply.number ∉ s.after)
    ∧ c.timers.map Timer.entry = c.entries
    ∧ (∀ t ∈ c.timers, ∃ s : Subscription ops,
        t = ⟨s.reply.number, s.key, s.reply.deadline, s.span⟩)
    ∧ ∀ n o, c.outcome? n = some o → ∀ later : List (Op μ),
        (.release n ∉ later → (c.run later).outcome? n = some o)
        ∧ (.release n ∈ later → (c.run later).reply? n = none) := by
  have h : Sound (run {} ops) := sound_empty.run ops
  exact ⟨h.entry_numbers, fun e he => Subscription.exists_of_entry he,
    fun s => s.pending_iff, h.timers_eq,
    fun t ht => Subscription.exists_of_timer ht,
    fun n o ho later => ⟨h.run_outcome ho,
      h.run_released (h.lt_next_of_outcome ho)⟩⟩

end DeviceTwin.Correlator
