/-
What is left over of an old subscription.

The entry of a subscription may be gone while its timer is still about
to fire and its owner still holds the reply. These leftovers look under
the key of the subscription, where by now a newer one may be pending,
perhaps the tenth of its kind. `stale_parties_touch_nothing` says that
they pass it by: a run with the leftovers in it, at any places and in
any number, is the run without them, but for the reply of the old
subscription itself.

# Erasing the leftovers

`besides n` is a correlator without the reply numbered `n`. While `n` is
out of the table (`Gone`), a step and the erasure can change places
(`Gone.besides_step`), and a leftover is erased altogether
(`Gone.besides_act`). A number that is out of the table stays out of it,
because numbers are not given out twice (`Gone.step`), so both hold all
along a run. None of this needs the invariant; the invariant is needed
once, to know that an entry with the number of a subscription could only
be that subscription (`Subscription.gone`).
-/
import DeviceTwin.Proofs.Correlator.Subscription

namespace DeviceTwin.Correlator

variable {μ : Type} {c : Correlator μ} {n : Nat}

-- ================================================================= besides

/-- All of a correlator besides the reply with a number. -/
def besides (c : Correlator μ) (n : Nat) : Correlator μ :=
  { c with replies := c.replies.filter (·.number != n) }

/-- The reply is not there, and the others are. -/
theorem besides_reply? (c : Correlator μ) (n k : Nat) :
    (c.besides n).reply? k = if k = n then none else c.reply? k :=
  Lookup.find?_filter_ne n k

/-- There is nothing more to erase. -/
theorem besides_besides (c : Correlator μ) (n : Nat) :
    (c.besides n).besides n = c.besides n := by
  simp [besides]

/-- The end of a subscription and the erasure can change places. -/
theorem besides_resolve (c : Correlator μ) (e : Entry) (o : Outcome μ) :
    (c.resolve e o).besides n = (c.besides n).resolve e o := by
  show Correlator.mk _ _ ((c.replies.map (Reply.settled e.number o)).filter
    (·.number != n)) _ _ = _
  rw [Lookup.filter_map_ne fun r => r.settled_number e.number o]
  rfl

/-- So can the ends of many. -/
theorem besides_resolve_all (o : Outcome μ) (l : List Entry) :
    ∀ c : Correlator μ,
      (l.foldl (fun c e => c.resolve e o) c).besides n
        = l.foldl (fun c e => c.resolve e o) (c.besides n) := by
  induction l with
  | nil => exact fun _ => rfl
  | cons e l ih =>
      intro c
      rw [List.foldl_cons, ih, besides_resolve]
      rfl

/-- So can a registration, under another number. -/
theorem besides_register (hn : n < c.next) (now : Nat) (key : String)
    (span : Span) :
    (c.register now key span).besides n = (c.besides n).register now key span := by
  have hnew : [c.newReply now key span].filter (·.number != n)
      = [c.newReply now key span] := by
    simp [newReply, (Nat.ne_of_lt hn).symm]
  show Correlator.mk _ _ ((c.replies ++ [_]).filter (·.number != n)) _ _ = _
  rw [List.filter_append, hnew]
  rfl

/-- So can a subscription, whether or not it is admitted. -/
theorem besides_subscribe (hn : n < c.next) (now : Nat) (key : String)
    (span : Span) :
    (c.subscribe now key span).1.besides n
      = ((c.besides n).subscribe now key span).1 := by
  unfold subscribe
  cases hclosed : c.closed with
  | true => simp [besides, hclosed]
  | false =>
      cases hpending : c.isPending key with
      | true =>
          have hpending' : (c.besides n).isPending key = true := hpending
          simp only [besides, hclosed] at hpending' ⊢
          simp [hpending']
      | false =>
          have hpending' : (c.besides n).isPending key = false := hpending
          have hclosed' : (c.besides n).closed = false := hclosed
          simp only [hpending', hclosed', Bool.false_eq_true, if_false]
          exact besides_register hn now key span

/-- So can a message. -/
theorem besides_publish (c : Correlator μ) (key : Option String) (m : μ) :
    (c.publish key m).1.besides n = ((c.besides n).publish key m).1 := by
  have hentry : key.bind (c.besides n).pending? = key.bind c.pending? := rfl
  unfold publish
  rw [hentry]
  cases key.bind c.pending? with
  | none => rfl
  | some e => exact c.besides_resolve e _

/-- So can giving a subscription up. -/
theorem besides_unsubscribe (c : Correlator μ) (key : String) (k : Nat) :
    (c.unsubscribe key k).1.besides n
      = ((c.besides n).unsubscribe key k).1 := by
  have hholds : (c.besides n).holds key k = c.holds key k := rfl
  unfold unsubscribe
  rw [hholds]
  cases c.holds key k with
  | false => rfl
  | true => exact c.besides_resolve ⟨k, key⟩ _

/-- So can letting go of a reply. -/
theorem besides_release (c : Correlator μ) (key : String) (k : Nat) :
    (c.release key k).besides n = (c.besides n).release key k := by
  have hholds : (c.besides n).holds key k = c.holds key k := rfl
  unfold release
  rw [hholds]
  cases c.holds key k with
  | false => simp [besides, List.filter_filter, Bool.and_comm]
  | true => simp [besides, withdraw, List.filter_filter, Bool.and_comm]

/-- So can a timer. -/
theorem besides_fire (c : Correlator μ) (t : Timer) :
    (c.fire t).besides n = (c.besides n).fire t := by
  have hholds : (c.besides n).holds t.key t.number
      = c.holds t.key t.number := rfl
  unfold fire
  rw [hholds]
  cases c.holds t.key t.number with
  | false => rfl
  | true => exact c.besides_resolve ⟨t.number, t.key⟩ _

-- ============================================================ gone for good

/-- A number that was given out and is not in the table any more. -/
structure Gone (c : Correlator μ) (n : Nat) : Prop where
  given : n < c.next
  out : ∀ e ∈ c.entries, e.number ≠ n

namespace Gone

/-- What is gone stays gone. -/
theorem step (h : Gone c n) (op : Op μ) : Gone (c.step op).1 n where
  given := Nat.lt_of_lt_of_le h.given (c.next_le_step op)
  out := by
    intro e he hn
    have hrun : e ∈ (c.run [op]).entries := he
    rcases mem_entries_run hrun with hold | hnew
    · exact h.out e hold hn
    · rw [hn] at hnew
      exact Nat.not_le_of_lt h.given hnew

/-- Nobody finds it under any key. -/
theorem not_holds (h : Gone c n) (key : String) : c.holds key n = false := by
  unfold holds
  cases hf : c.pending? key with
  | none => rfl
  | some e =>
      have hne := h.out e (List.mem_of_find?_eq_some hf)
      simpa using hne

/-- Giving it up once more changes nothing, and was in vain. -/
theorem unsubscribe_eq (h : Gone c n) (key : String) :
    c.unsubscribe key n = (c, false) := by
  simp [unsubscribe, h.not_holds key]

/-- Its timer changes nothing when it fires after all. -/
theorem fire_eq (h : Gone c n) {t : Timer} (ht : t.number = n) :
    c.fire t = c := by
  have hholds := h.not_holds t.key
  rw [← ht] at hholds
  simp [fire, hholds]

/-- Letting go of its reply takes that reply away and nothing else. -/
theorem release_eq (h : Gone c n) (key : String) :
    c.release key n = c.besides n := by
  simp [release, h.not_holds key, besides]

/-- What a step does besides a reply whose number is gone, it does as if
the reply were not there. -/
theorem besides_step (h : Gone c n) (op : Op μ) :
    (c.step op).1.besides n = ((c.besides n).step op).1 := by
  cases op with
  | subscribe now key span => exact besides_subscribe h.given now key span
  | publish key m => exact c.besides_publish key m
  | unsubscribe k =>
      cases hk : c.reply? k with
      | none =>
          have hk' : (c.besides n).reply? k = none := by
            rw [besides_reply?, hk, ite_self]
          rw [step_unsubscribe_none hk, step_unsubscribe_none hk']
      | some r =>
          rw [step_unsubscribe hk]
          by_cases hkn : k = n
          · subst hkn
            have hk' : (c.besides k).reply? k = none := by
              rw [besides_reply?, if_pos rfl]
            rw [step_unsubscribe_none hk', h.unsubscribe_eq]
            rfl
          · have hk' : (c.besides n).reply? k = some r := by
              rw [besides_reply?, if_neg hkn, hk]
            rw [step_unsubscribe hk']
            exact c.besides_unsubscribe r.key k
  | release k =>
      cases hk : c.reply? k with
      | none =>
          have hk' : (c.besides n).reply? k = none := by
            rw [besides_reply?, hk, ite_self]
          rw [step_release_none hk, step_release_none hk']
      | some r =>
          rw [step_release hk]
          by_cases hkn : k = n
          · subst hkn
            have hk' : (c.besides k).reply? k = none := by
              rw [besides_reply?, if_pos rfl]
            rw [step_release_none hk', h.release_eq]
            exact c.besides_besides k
          · have hk' : (c.besides n).reply? k = some r := by
              rw [besides_reply?, if_neg hkn, hk]
            rw [step_release hk']
            exact c.besides_release r.key k
  | fire k =>
      have htimer : (c.besides n).timer? k = c.timer? k := rfl
      cases hk : c.timer? k with
      | none => rw [step_fire_none hk, step_fire_none (htimer.trans hk)]
      | some t =>
          rw [step_fire hk, step_fire (htimer.trans hk)]
          exact c.besides_fire t
  | close => exact besides_resolve_all _ c.entries { c with closed := true }

/-- What a run does besides such a reply, it does as if the reply were
not there. -/
theorem besides_run (h : Gone c n) (later : List (Op μ)) :
    (c.run later).besides n = (c.besides n).run later := by
  induction later generalizing c with
  | nil => rfl
  | cons op later ih =>
      rw [run_cons, ih (h.step op), h.besides_step]
      rfl

end Gone

-- ================================================================ leftovers

/-- What the parties of an old subscription may still do. -/
inductive Leftover where
  /-- Its timer fires, though it was stopped. -/
  | fires
  /-- Its owner gives it up. -/
  | givesUp
  /-- Its owner lets go of the reply. -/
  | letsGo

namespace Subscription

variable {ops : List (Op μ)}

/-- What a leftover does. -/
def act (s : Subscription ops) (c : Correlator μ) :
    Leftover → Correlator μ
  | .fires => c.fire ⟨s.reply.number, s.key, s.reply.deadline, s.span⟩
  | .givesUp => (c.unsubscribe s.reply.key s.reply.number).1
  | .letsGo => c.release s.reply.key s.reply.number

/-- The correlator after operations and acts of the leftovers of a
subscription, in the order of a list. -/
def haunted (s : Subscription ops) (c : Correlator μ)
    (events : List (Op μ ⊕ Leftover)) : Correlator μ :=
  events.foldl (fun c => Sum.elim (fun op => (c.step op).1) (s.act c)) c

/-- A subscription that is not in the table has no entry there, under
its own key or another. -/
theorem gone (s : Subscription ops)
    (hout : s.reply.entry ∉ (run {} ops).entries) :
    Gone (run {} ops) s.reply.number where
  given := by
    rw [s.run_eq]
    exact Nat.lt_of_lt_of_le s.number_lt_next (next_le_run _ s.after)
  out := by
    intro e he hn
    obtain ⟨r, hr, -, ho⟩ := (sound_empty.run ops).pending_iff.mp he
    rw [hn] at hr
    refine hout (s.pending_iff.mpr ⟨by simp [outcome?, hr, ho], ?_⟩)
    intro hreleased
    have hnone := s.entered_sound.run_released s.number_lt_next hreleased
    rw [← s.run_eq, hr] at hnone
    cases hnone

/-- A leftover changes at most the reply of its own subscription. -/
theorem act_cases (s : Subscription ops) (h : Gone c s.reply.number)
    (l : Leftover) :
    s.act c l = c ∨ s.act c l = c.besides s.reply.number := by
  cases l with
  | fires => exact Or.inl (h.fire_eq rfl)
  | givesUp => exact Or.inl (congrArg Prod.fst (h.unsubscribe_eq _))
  | letsGo => exact Or.inr (h.release_eq _)

/-- A leftover is erased with the reply. -/
theorem besides_act (s : Subscription ops) (h : Gone c s.reply.number)
    (l : Leftover) :
    (s.act c l).besides s.reply.number = c.besides s.reply.number := by
  obtain hact | hact := s.act_cases h l
  · rw [hact]
  · rw [hact, besides_besides]

/-- And the subscription stays gone. -/
theorem gone_act (s : Subscription ops) (h : Gone c s.reply.number)
    (l : Leftover) : Gone (s.act c l) s.reply.number := by
  obtain hact | hact := s.act_cases h l
  · rw [hact]
    exact h
  · rw [hact]
    exact ⟨h.given, h.out⟩

/-- A run with leftovers in it is, besides the old reply, the run of the
operations alone. -/
theorem besides_haunted (s : Subscription ops)
    (events : List (Op μ ⊕ Leftover)) :
    ∀ {c : Correlator μ}, Gone c s.reply.number →
      Gone (s.haunted c events) s.reply.number
      ∧ (s.haunted c events).besides s.reply.number
        = (c.besides s.reply.number).run
            (events.filterMap Sum.getLeft?) := by
  induction events with
  | nil => exact fun h => ⟨h, rfl⟩
  | cons event events ih =>
      intro c h
      cases event with
      | inl op =>
          obtain ⟨hgone, heq⟩ := ih (h.step op)
          refine ⟨hgone, heq.trans ?_⟩
          rw [h.besides_step]
          rfl
      | inr l =>
          obtain ⟨hgone, heq⟩ := ih (s.gone_act h l)
          refine ⟨hgone, heq.trans ?_⟩
          rw [s.besides_act h]
          rfl

end Subscription

/-- Stale parties never touch a newer subscription. Once a subscription
is out of the table, whatever else happens and whatever its timer and
its owner do in between, in any number and order,

- the table, the armed timers, the counter and every other reply are
  what they are without the leftovers;
- giving the subscription up changes nothing and answers no. -/
theorem stale_parties_touch_nothing {ops : List (Op μ)}
    (s : Subscription ops) (hout : s.reply.entry ∉ (run {} ops).entries)
    (events : List (Op μ ⊕ Leftover)) :
    let c := s.haunted (run {} ops) events
    let c' := (run {} ops).run (events.filterMap Sum.getLeft?)
    c.entries = c'.entries ∧ c.timers = c'.timers
    ∧ c.next = c'.next ∧ c.closed = c'.closed
    ∧ (∀ k, k ≠ s.reply.number → c.reply? k = c'.reply? k)
    ∧ c.unsubscribe s.reply.key s.reply.number = (c, false) := by
  intro c c'
  have hgone := s.gone hout
  obtain ⟨hstill, hhaunted⟩ := s.besides_haunted events hgone
  have heq : c.besides s.reply.number = c'.besides s.reply.number :=
    hhaunted.trans (hgone.besides_run _).symm
  have hentries := congrArg entries heq
  have htimers := congrArg timers heq
  have hnext := congrArg next heq
  have hclosed := congrArg closed heq
  refine ⟨hentries, htimers, hnext, hclosed, fun k hk => ?_,
    hstill.unsubscribe_eq _⟩
  have hreply := congrArg (reply? · k) heq
  simpa only [besides_reply?, if_neg hk] using hreply

/-- A subscription, its timer, and a newer subscription under its key. -/
def replacement : List (Op Nat) :=
  [.subscribe 0 "a" (.ms 5), .fire 1, .subscribe 7 "a" (.ms 5)]

/-- The older one of the two. -/
def replaced : Subscription replacement where
  before := []
  now := 0
  key := "a"
  span := .ms 5
  after := [.fire 1, .subscribe 7 "a" (.ms 5)]
  reply := ⟨1, "a", Span.deadline 0 (.ms 5), none⟩
  ops_eq := rfl
  admitted := rfl

/-- The newer one gets its message, though the timer of the older fires
again and its owner gives it up and lets go of it. -/
theorem replaced_parties_touch_nothing :
    let c := replaced.haunted (run {} replacement)
      [.inr .fires, .inr .givesUp, .inl (.publish (some "a") 3),
        .inr .letsGo]
    c.outcome? 1 = none ∧ c.outcome? 2 = some (.ok 3) ∧ c.entries = []
    ∧ c.unsubscribe "a" 1 = (c, false) := by
  have hout : replaced.reply.entry ∉ (run {} replacement).entries := by decide
  obtain ⟨hentries, -, -, -, hreply, hunsubscribe⟩ :=
    stale_parties_touch_nothing replaced hout
      [.inr .fires, .inr .givesUp, .inl (.publish (some "a") 3),
        .inr .letsGo]
  have hother := hreply 2 (by decide)
  exact ⟨rfl, by rw [outcome?, hother]; rfl, hentries, hunsubscribe⟩

end DeviceTwin.Correlator
