/-
Runs of a correlator.

`Op` is everything that can be done to a correlator or happen to it: a
subscription, a publication, a reply given up or let go of, a timer that
fires, the closing. A run is any list of them. An operation on a reply
that is not held, or on a timer that is not armed, does nothing, so no
list has to be excluded; and a timer may fire at any time, so whatever
holds of these runs holds whatever the clock does.

# The law of a step

`Sound.reply?_step` puts the laws of the operations into one: what a
step does to a held reply is to offer it an outcome (`Reply.offered`),
which the reply takes if it has none. `Sound.reply?_step_none` is its
other half: a number that was given out and has no reply never has one
again. `exists_step` finds the step of a run at which something came
about.
-/
import DeviceTwin.Proofs.Correlator.Reply

namespace DeviceTwin.Correlator

variable {μ : Type} {c : Correlator μ}

-- ==================================================================== steps

/-- What can be done to a correlator or happen to it. -/
inductive Op (μ : Type) where
  | subscribe (now : Nat) (key : String) (span : Span)
  | publish (key : Option String) (m : μ)
  /-- The owner of the reply with a number gives its subscription up. -/
  | unsubscribe (number : Nat)
  /-- The owner of the reply with a number lets go of it. -/
  | release (number : Nat)
  /-- The timer that is armed for a number fires. -/
  | fire (number : Nat)
  | close

/-- What comes back from an operation. -/
inductive Answer (μ : Type) where
  | subscribed (reply : Except ReplyError (Reply μ))
  | published (returned : Option μ)
  | unsubscribed (removed : Bool)
  | closed (ended : Nat)
  | silent

/-- One operation with its answer. -/
def step (c : Correlator μ) : Op μ → Correlator μ × Answer μ
  | .subscribe now key span =>
      (c.subscribe now key span).map id .subscribed
  | .publish key m => (c.publish key m).map id .published
  | .unsubscribe n =>
      match c.reply? n with
      | some r => (c.unsubscribe r.key n).map id .unsubscribed
      | none => (c, .silent)
  | .release n =>
      match c.reply? n with
      | some r => (c.release r.key n, .silent)
      | none => (c, .silent)
  | .fire n =>
      match c.timer? n with
      | some t => (c.fire t, .silent)
      | none => (c, .silent)
  | .close => c.close.map id .closed

/-- The correlator after a run of operations. -/
def run (c : Correlator μ) (ops : List (Op μ)) : Correlator μ :=
  ops.foldl (fun c op => (c.step op).1) c

/-- A longer run is the later operations after the earlier ones. -/
theorem run_append (c : Correlator μ) (ops later : List (Op μ)) :
    c.run (ops ++ later) = (c.run ops).run later := List.foldl_append

/-- A run is its first operation and then the rest. -/
theorem run_cons (c : Correlator μ) (op : Op μ) (ops : List (Op μ)) :
    c.run (op :: ops) = (c.step op).1.run ops := rfl

section Equations

variable {n : Nat}

/-- A subscription is given up under the key of its reply. -/
theorem step_unsubscribe {r : Reply μ} (hr : c.reply? n = some r) :
    c.step (.unsubscribe n)
      = (c.unsubscribe r.key n).map id .unsubscribed := by
  simp only [step, hr]

/-- A reply is let go of under its own key. -/
theorem step_release {r : Reply μ} (hr : c.reply? n = some r) :
    c.step (.release n) = (c.release r.key n, .silent) := by
  simp only [step, hr]

/-- The timer that is armed for a number fires. -/
theorem step_fire {t : Timer} (ht : c.timer? n = some t) :
    c.step (.fire n) = (c.fire t, .silent) := by
  simp only [step, ht]

/-- Without the reply or the timer nothing happens. -/
theorem step_unsubscribe_none (hr : c.reply? n = none) :
    c.step (.unsubscribe n) = (c, .silent) := by
  simp only [step, hr]

/-- A reply that is not held is not let go of. -/
theorem step_release_none (hr : c.reply? n = none) :
    c.step (.release n) = (c, .silent) := by
  simp only [step, hr]

/-- A timer that is not armed does not fire. -/
theorem step_fire_none (ht : c.timer? n = none) :
    c.step (.fire n) = (c, .silent) := by
  simp only [step, ht]

end Equations

-- =============================================================== invariants

/-- The key of a held reply is the key of every reply with its number. -/
theorem Tied.key_eq (h : Tied c) {n : Nat} {r : Reply μ}
    (hr : c.reply? n = some r) :
    ∀ s ∈ c.replies, s.number = n → s.key = r.key := by
  intro s hs hn
  obtain ⟨hmem, hrn⟩ := h.reply?_eq_some.mp hr
  rw [h.reply_eq hs hmem (hn.trans hrn.symm)]

/-- Every step keeps a correlator sound. -/
theorem Sound.step (h : Sound c) (op : Op μ) : Sound (c.step op).1 := by
  cases op with
  | subscribe now key span => exact h.subscribe now key span
  | publish key m => exact h.publish key m
  | unsubscribe n =>
      cases hr : c.reply? n with
      | none => rw [step_unsubscribe_none hr]; exact h
      | some r =>
          rw [step_unsubscribe hr]
          exact h.unsubscribe r.key n
  | release n =>
      cases hr : c.reply? n with
      | none => rw [step_release_none hr]; exact h
      | some r =>
          rw [step_release hr]
          exact h.release (h.key_eq hr)
  | fire n =>
      cases ht : c.timer? n with
      | none => rw [step_fire_none ht]; exact h
      | some t =>
          rw [step_fire ht]
          exact h.fire t
  | close => exact h.close

/-- What a step keeps on sound correlators, a run keeps. -/
theorem Sound.run_keeps {P : Correlator μ → Prop} {ops : List (Op μ)}
    (hstep : ∀ (c : Correlator μ), ∀ op ∈ ops, Sound c → P c →
      P (c.step op).1) :
    ∀ {c : Correlator μ}, Sound c → P c →
      Sound (c.run ops) ∧ P (c.run ops) := by
  induction ops with
  | nil => exact fun h hp => ⟨h, hp⟩
  | cons op ops ih =>
      intro c h hp
      exact ih (fun c op' hmem => hstep c op' (List.mem_cons_of_mem _ hmem))
        (h.step op) (hstep c op List.mem_cons_self h hp)

/-- A run keeps the correlator sound. -/
theorem Sound.run (h : Sound c) (ops : List (Op μ)) :
    Sound (c.run ops) :=
  (Sound.run_keeps (P := fun _ => True) (fun _ _ _ _ _ => trivial) h
    trivial).1

/-- What does not hold before a run and holds after it came about in one
of its steps. -/
theorem exists_step {P : Correlator μ → Prop} :
    ∀ {ops : List (Op μ)} {c : Correlator μ}, ¬ P c → P (c.run ops) →
      ∃ before op after, ops = before ++ op :: after
        ∧ ¬ P (c.run before) ∧ P ((c.run before).step op).1 := by
  intro ops
  induction ops with
  | nil => exact fun hn hp => absurd hp hn
  | cons op ops ih =>
      intro c hn hp
      by_cases hnow : P (c.step op).1
      · exact ⟨[], op, ops, rfl, hn, hnow⟩
      · obtain ⟨before, op', after, rfl, hb, ha⟩ := ih hnow hp
        exact ⟨op :: before, op', after, rfl, hb, ha⟩

/-- Firing one timer leaves the others armed. -/
theorem mem_timers_fire {t u : Timer} (hu : u ∈ c.timers)
    (hne : u.number ≠ t.number) : u ∈ (c.fire t).timers := by
  unfold fire
  split
  case isTrue => exact List.mem_filter.mpr ⟨hu, by simpa using hne⟩
  case isFalse => exact hu

/-- Timers that fire one after the other are a run. -/
theorem Sound.fire_all (l : List Timer) :
    ∀ {c : Correlator μ}, Sound c → l ⊆ c.timers →
      (l.map (·.number)).Nodup →
      l.foldl Correlator.fire c = c.run (l.map fun t => .fire t.number) := by
  induction l with
  | nil => exact fun _ _ _ => rfl
  | cons t l ih =>
      intro c h hl hn
      rw [List.map_cons, List.nodup_cons] at hn
      have ht := h.timer?_eq_some.mpr ⟨hl List.mem_cons_self, rfl⟩
      rw [List.foldl_cons, List.map_cons, run_cons, step_fire ht]
      refine ih (h.fire t) (fun u hu => ?_) hn.2
      refine mem_timers_fire (hl (List.mem_cons_of_mem _ hu)) fun heq => ?_
      exact hn.1 (heq ▸ List.mem_map_of_mem hu)

/-- All timers that are due fire in a run. -/
theorem Sound.expire_eq_run (h : Sound c) (now : Nat) :
    c.expire now
      = c.run ((c.timers.filter (·.deadline ≤ now)).map
          fun t => .fire t.number) :=
  fire_all _ h (List.filter_subset_self _)
    ((List.filter_sublist.map _).nodup h.timer_numbers)

-- ========================================================== what can be new

/-- Nothing is new: every entry, every timer and every number of a reply
was there before, and the counter did not go back. -/
structure Shrinks (c c' : Correlator μ) : Prop where
  entries : c'.entries ⊆ c.entries
  timers : c'.timers ⊆ c.timers
  replies : c'.replies.map (·.number) ⊆ c.replies.map (·.number)
  next : c.next ≤ c'.next

namespace Shrinks

theorem refl (c : Correlator μ) : Shrinks c c :=
  ⟨List.Subset.refl _, List.Subset.refl _, List.Subset.refl _,
    Nat.le_refl _⟩

/-- Where subscriptions only end, nothing is new. -/
theorem of_settles {c c' : Correlator μ} (h : Settles c c') :
    Shrinks c c' where
  entries := h.entries
  timers := h.timers
  replies := by
    have hnumber : (fun r : Reply μ => r.number)
        = Entry.number ∘ Reply.entry := rfl
    rw [hnumber, ← List.map_map, ← List.map_map, h.held]
    exact List.Subset.refl _
  next := Nat.le_of_eq h.next.symm

/-- Letting go of a reply brings nothing new. -/
theorem release (c : Correlator μ) (key : String) (n : Nat) :
    Shrinks c (c.release key n) := by
  have hreplies := List.map_subset (fun r : Reply μ => r.number)
    (List.filter_subset_self (p := (·.number != n)) c.replies)
  unfold Correlator.release
  split
  · exact ⟨List.filter_subset_self _, List.filter_subset_self _, hreplies,
      Nat.le_refl _⟩
  · exact ⟨List.Subset.refl _, List.Subset.refl _, hreplies,
      Nat.le_refl _⟩

end Shrinks

/-- A step settles subscriptions and does nothing else, unless somebody
subscribes or lets go of a reply. -/
theorem Settles.step (c : Correlator μ) {op : Op μ}
    (hsubscribe : ∀ now key span, op ≠ .subscribe now key span)
    (hrelease : ∀ n, op ≠ .release n) : Settles c (c.step op).1 := by
  cases op with
  | subscribe now key span => exact absurd rfl (hsubscribe now key span)
  | publish key m => exact .publish c key m
  | unsubscribe n =>
      cases hr : c.reply? n with
      | none => rw [step_unsubscribe_none hr]; exact .refl c
      | some r =>
          rw [step_unsubscribe hr]
          exact .unsubscribe c r.key n
  | release n => exact absurd rfl (hrelease n)
  | fire n =>
      cases ht : c.timer? n with
      | none => rw [step_fire_none ht]; exact .refl c
      | some t =>
          rw [step_fire ht]
          exact .fire c t
  | close => exact .close c

/-- A step brings nothing new, or it is a subscription that is
admitted. -/
theorem step_cases (c : Correlator μ) (op : Op μ) :
    Shrinks c (c.step op).1
      ∨ ∃ now key span, op = .subscribe now key span
          ∧ c.step op = (c.register now key span,
              .subscribed (.ok (c.newReply now key span))) := by
  cases op with
  | subscribe now key span =>
      obtain ⟨-, hs⟩ | ⟨-, hs⟩ | ⟨-, -, hs⟩ :=
        c.subscribe_cases now key span
      · left
        rw [step, hs]
        exact .refl c
      · left
        rw [step, hs]
        exact ⟨List.Subset.refl _, List.Subset.refl _,
          List.Subset.refl _, Nat.le_succ _⟩
      · right
        rw [step, hs]
        exact ⟨now, key, span, rfl, rfl⟩
  | release n =>
      left
      cases hr : c.reply? n with
      | none => rw [step_release_none hr]; exact .refl c
      | some r => rw [step_release hr]; exact .release ..
  | publish | unsubscribe | fire | close =>
      exact .inl (.of_settles (.step c (by simp) (by simp)))

/-- No step takes a number back. -/
theorem next_le_step (c : Correlator μ) (op : Op μ) :
    c.next ≤ (c.step op).1.next := by
  obtain h | ⟨_, _, _, -, h⟩ := c.step_cases op
  · exact h.next
  · rw [h]
    exact Nat.le_succ _

/-- No run takes a number back. -/
theorem next_le_run (c : Correlator μ) (ops : List (Op μ)) :
    c.next ≤ (c.run ops).next := by
  induction ops generalizing c with
  | nil => exact Nat.le_refl _
  | cons op ops ih =>
      exact Nat.le_trans (c.next_le_step op) (ih (c.step op).1)

/-- What no operation brings but a subscription that is admitted, and what
holds after a run and not before it, came with such a subscription. -/
theorem exists_admission {P : Correlator μ → Prop}
    (hP : ∀ {c c' : Correlator μ}, Shrinks c c' → P c' → P c)
    {ops : List (Op μ)} (hb : ¬ P c) (ha : P (c.run ops)) :
    ∃ before now key span after,
      ops = before ++ .subscribe now key span :: after
      ∧ (c.run before).step (.subscribe now key span)
        = ((c.run before).register now key span,
            .subscribed (.ok ((c.run before).newReply now key span)))
      ∧ ¬ P (c.run before) ∧ P ((c.run before).register now key span) := by
  obtain ⟨before, op, after, rfl, hb, ha⟩ := exists_step hb ha
  obtain h | ⟨now, key, span, rfl, hstep⟩ := (c.run before).step_cases op
  · exact absurd (hP h ha) hb
  · rw [hstep] at ha
    exact ⟨before, now, key, span, after, rfl, hstep, hb, ha⟩

/-- What is in the table after a run was there before, or has a number
that was given out in the run. -/
theorem mem_entries_run {e : Entry} {ops : List (Op μ)}
    (he : e ∈ (c.run ops).entries) : e ∈ c.entries ∨ c.next ≤ e.number := by
  by_cases hold : e ∈ c.entries
  · exact .inl hold
  · right
    obtain ⟨before, now, key, span, after, rfl, -, hb, ha⟩ :=
      exists_admission (P := fun c => e ∈ c.entries)
        (fun h he => h.entries he) hold he
    rcases List.mem_append.mp ha with hmem | hmem
    · exact absurd hmem hb
    · rw [List.mem_singleton.mp hmem]
      exact c.next_le_run before

/-- A timer that is armed after a run was armed before, or for a number
that was given out in the run. -/
theorem mem_timers_run {t : Timer} {ops : List (Op μ)}
    (ht : t ∈ (c.run ops).timers) : t ∈ c.timers ∨ c.next ≤ t.number := by
  by_cases hold : t ∈ c.timers
  · exact .inl hold
  · right
    obtain ⟨before, now, key, span, after, rfl, -, hb, ha⟩ :=
      exists_admission (P := fun c => t ∈ c.timers)
        (fun h ht => h.timers ht) hold ht
    rcases List.mem_append.mp ha with hmem | hmem
    · exact absurd hmem hb
    · rw [List.mem_singleton.mp hmem]
      exact c.next_le_run before

-- ======================================================== the law of a step

/-- The outcome that an operation has for a reply, if it has one. -/
def Reply.offered (c : Correlator μ) (r : Reply μ) :
    Op μ → Option (Outcome μ)
  | .publish key m => if key = some r.key then some (.ok m) else none
  | .unsubscribe n =>
      if r.number = n then some (.error .closed) else none
  | .fire n =>
      if r.number = n then
        (c.timer? n).map fun t => .error (.timeout t.key t.span)
      else none
  | .close => some (.error .closed)
  | .subscribe .. | .release _ => none

/-- A reply after an operation: it takes what it is offered if it has no
outcome. -/
def Reply.after (c : Correlator μ) (op : Op μ) (r : Reply μ) : Reply μ :=
  { r with outcome := r.outcome.or (r.offered c op) }

/-- A reply that is offered nothing stays. -/
theorem Reply.after_eq_self {op : Op μ} {r : Reply μ}
    (h : r.offered c op = none) : r.after c op = r := by
  simp [after, h]

/-- Where nothing is offered to the reply with a number, it stays. -/
theorem map_after_eq_self {op : Op μ} {n : Nat}
    (h : ∀ r, c.reply? n = some r → r.offered c op = none) :
    (c.reply? n).map (Reply.after c op) = c.reply? n := by
  cases hr : c.reply? n with
  | none => rfl
  | some r => rw [Option.map_some, Reply.after_eq_self (h r hr)]

/-- A subscription does not touch the replies that are there. -/
theorem Sound.reply?_subscribe (h : Sound c) (now : Nat) (key : String)
    (span : Span) {n : Nat} (hn : n < c.next) :
    (c.subscribe now key span).1.reply? n = c.reply? n := by
  obtain ⟨-, hs⟩ | ⟨-, hs⟩ | ⟨-, -, hs⟩ :=
    c.subscribe_cases now key span
  · rw [hs]
  · rw [hs]
    rfl
  · rw [hs, h.reply?_register, if_neg (Nat.ne_of_lt hn)]

/-- The law of a step: under a number that was given out, a reply that
is not let go of takes what it is offered, if it has no outcome, and
where there is no reply there is none afterwards. -/
theorem Sound.reply?_step (h : Sound c) {n : Nat} (hn : n < c.next)
    {op : Op μ} (hop : op ≠ .release n) :
    (c.step op).1.reply? n = (c.reply? n).map (Reply.after c op) := by
  cases op with
  | subscribe now key span =>
      show (c.subscribe now key span).1.reply? n = _
      rw [h.reply?_subscribe now key span hn,
        map_after_eq_self fun _ _ => rfl]
  | publish key m =>
      show (c.publish key m).1.reply? n = _
      rw [h.reply?_publish]
      congr 1
      funext r
      simp only [Reply.after, Reply.offered, Reply.concluded]
      split <;> simp
  | unsubscribe k =>
      cases hk : c.reply? k with
      | none =>
          rw [step_unsubscribe_none hk, map_after_eq_self fun r hr => ?_]
          refine if_neg fun hrk => ?_
          rw [← hrk, (h.reply?_eq_some.mp hr).2, hr] at hk
          cases hk
      | some s =>
          rw [step_unsubscribe hk]
          show (c.unsubscribe s.key k).1.reply? n = _
          rw [h.reply?_unsubscribe (h.key_eq hk)]
          congr 1
          funext r
          simp only [Reply.after, Reply.offered, Reply.concluded]
          split <;> simp
  | release k =>
      have hne : n ≠ k := by
        rintro rfl
        exact hop rfl
      rw [map_after_eq_self fun _ _ => rfl]
      cases hk : c.reply? k with
      | none => rw [step_release_none hk]
      | some s =>
          rw [step_release hk, h.reply?_release (h.key_eq hk), if_neg hne]
  | fire k =>
      cases hk : c.timer? k with
      | none =>
          rw [step_fire_none hk, map_after_eq_self fun r _ => ?_]
          simp [Reply.offered, hk]
      | some t =>
          obtain ⟨ht, rfl⟩ := h.timer?_eq_some.mp hk
          rw [step_fire hk, h.reply?_fire ht]
          congr 1
          funext r
          simp only [Reply.after, Reply.offered, Reply.concluded, hk]
          split <;> simp
  | close =>
      show c.close.1.reply? n = _
      rw [h.reply?_close]
      rfl

/-- A reply that is let go of is gone. -/
theorem Sound.reply?_step_release (h : Sound c) (n : Nat) :
    (c.step (.release n)).1.reply? n = none := by
  cases hr : c.reply? n with
  | none => rw [step_release_none hr, hr]
  | some r =>
      rw [step_release hr, h.reply?_release (h.key_eq hr), if_pos rfl]

/-- A reply that is held takes what it is offered. -/
theorem Sound.reply?_step_some (h : Sound c) {n : Nat} {r : Reply μ}
    (hr : c.reply? n = some r) {op : Op μ} (hop : op ≠ .release n) :
    (c.step op).1.reply? n = some (r.after c op) := by
  obtain ⟨hmem, rfl⟩ := h.reply?_eq_some.mp hr
  rw [h.reply?_step (h.fresh r hmem) hop, hr, Option.map_some]

/-- A number that was given out and has no reply gets none. -/
theorem Sound.reply?_step_none (h : Sound c) {n : Nat} (hn : n < c.next)
    (hr : c.reply? n = none) (op : Op μ) :
    (c.step op).1.reply? n = none := by
  by_cases hop : op = .release n
  · rw [hop]
    exact h.reply?_step_release n
  · rw [h.reply?_step hn hop, hr, Option.map_none]

/-- An outcome that is there after a step and was not before was offered
to a reply that had none. -/
theorem Sound.offered_of_step (h : Sound c) {op : Op μ} {n : Nat}
    {o : Outcome μ} (hb : c.outcome? n ≠ some o)
    (ha : (c.step op).1.outcome? n = some o) :
    ∃ r, c.reply? n = some r ∧ r.outcome = none ∧ r.offered c op = some o := by
  obtain ⟨r', hr', ho'⟩ := Option.bind_eq_some_iff.mp ha
  cases hr : c.reply? n with
  | none =>
      -- a reply that was not there has just been given out, without an
      -- outcome
      obtain hshrinks | ⟨now, key, span, rfl, hstep⟩ := c.step_cases op
      · obtain ⟨hmem, hn⟩ := (h.step op).reply?_eq_some.mp hr'
        obtain ⟨s, hs, hsn⟩ := List.mem_map.mp
          (hshrinks.replies (List.mem_map_of_mem hmem))
        rw [h.reply?_eq_some.mpr ⟨hs, hsn.trans hn⟩] at hr
        cases hr
      · rw [hstep, h.reply?_register, hr] at hr'
        split at hr'
        case isTrue =>
          obtain rfl := Option.some.inj hr'
          cases ho'
        case isFalse => cases hr'
  | some r =>
      have hop : op ≠ .release n := by
        rintro rfl
        rw [h.reply?_step_release] at hr'
        cases hr'
      rw [h.reply?_step_some hr hop] at hr'
      obtain rfl := Option.some.inj hr'
      have hnone : r.outcome = none := by
        cases ho : r.outcome with
        | none => rfl
        | some o =>
            refine absurd ?_ hb
            simpa [outcome?, hr, ho, Reply.after] using ho'
      refine ⟨r, rfl, hnone, ?_⟩
      simpa [Reply.after, hnone] using ho'

end DeviceTwin.Correlator
