/-
What becomes of messages.

A message that is published comes back to its publisher or becomes the
outcome of a reply. `messages_are_conserved` says of every run that
there is no third way and no both: every publication has one of the two
fates, the one reply that receives the message is the one whose
subscription is pending under the key of the message at that moment, and
every message that a reply has as its outcome was received in one
publication and not in two.

# Why a message that is taken is held by somebody

A publication takes an entry out of the table and does not look whether
its reply is still held. It is, because the table holds exactly the
subscriptions of held replies without an outcome (`Tied.pending_iff`):
whoever lets go of a reply takes its entry along.

# When nobody waits any more

`Ends` lists what ends a subscription. After that it is not in the table
and never comes back (`Subscription.ended`), so a later message under
its key comes back unless a newer subscription waits for it; the newer
one has the greater number, because the key was free when it was made.
-/
import DeviceTwin.Proofs.Correlator.Subscription

namespace DeviceTwin.Correlator

variable {μ : Type} {c : Correlator μ}

-- ============================================================ one message

/-- What a publication comes to: nobody waits under the key and the
message comes back, or a subscription is pending under it. -/
theorem Tied.publish_cases (h : Tied c) (key : Option String) (m : μ) :
    ((∀ k, key = some k → c.isPending k = false)
        ∧ c.publish key m = (c, some m))
      ∨ ∃ n k, key = some k ∧ (⟨n, k⟩ : Entry) ∈ c.entries
          ∧ (c.publish key m).2 = none := by
  unfold publish
  split
  next e hf =>
    right
    obtain ⟨k, rfl, hk⟩ := Option.bind_eq_some_iff.mp hf
    obtain ⟨he, rfl⟩ := h.pending?_eq_some.mp hk
    exact ⟨e.number, e.key, rfl, he, rfl⟩
  next hf =>
    left
    refine ⟨?_, rfl⟩
    rintro k rfl
    rw [Option.bind_some] at hf
    simp [isPending, hf]

/-- A reply receives a message when it has no outcome before and the
message as its outcome afterwards. -/
def Receives (c : Correlator μ) (key : Option String) (m : μ) (n : Nat) :
    Prop :=
  c.outcome? n = none
    ∧ (c.step (.publish key m)).1.outcome? n = some (.ok m)

/-- The reply that receives a message is the one whose subscription is
pending under the key of the message. -/
theorem Tied.receives_iff (h : Tied c) {key : Option String} {m : μ}
    {n : Nat} :
    Receives c key m n
      ↔ ∃ k, key = some k ∧ (⟨n, k⟩ : Entry) ∈ c.entries := by
  have hstep : (c.step (.publish key m)).1.reply? n = _ :=
    h.reply?_publish key m n
  unfold Receives outcome?
  rw [hstep]
  constructor
  · rintro ⟨hnone, hsome⟩
    obtain ⟨s, hs, ho⟩ := Option.bind_eq_some_iff.mp hsome
    obtain ⟨r, hr, rfl⟩ := Option.map_eq_some_iff.mp hs
    rw [hr, Option.bind_some] at hnone
    split at ho
    case isFalse =>
      rw [hnone] at ho
      cases ho
    case isTrue hkey =>
      exact ⟨r.key, hkey, h.pending_iff.mpr ⟨r, hr, rfl, hnone⟩⟩
  · rintro ⟨k, rfl, he⟩
    obtain ⟨r, hr, rfl, ho⟩ := h.pending_iff.mp he
    simp [hr, ho, Reply.concluded]

theorem Tied.not_receives (h : Tied c) {key : Option String} {m : μ}
    (hfree : ∀ k, key = some k → c.isPending k = false) (n : Nat) :
    ¬ Receives c key m n := by
  rw [h.receives_iff]
  rintro ⟨k, rfl, he⟩
  have hpending := hfree k rfl
  rw [isPending, h.pending?_eq_some.mpr ⟨he, rfl⟩] at hpending
  cases hpending

theorem Tied.receives_unique (h : Tied c) {key : Option String} {m : μ}
    {n n' : Nat} (hn : Receives c key m n) (hn' : Receives c key m n') :
    n = n' := by
  obtain ⟨k, rfl, he⟩ := h.receives_iff.mp hn
  obtain ⟨k', hk, he'⟩ := h.receives_iff.mp hn'
  cases hk
  exact congrArg Entry.number (h.eq_of_key he he' rfl)

/-- A reply that has a message after a step and had no outcome before
received it in a publication. -/
theorem Sound.receives_of_step (h : Sound c) {op : Op μ} {n : Nat} {m : μ}
    (hb : c.outcome? n ≠ some (.ok m))
    (ha : (c.step op).1.outcome? n = some (.ok m)) :
    ∃ key, op = .publish key m ∧ Receives c key m n := by
  obtain ⟨r, hr, hnone, hoffer⟩ := h.offered_of_step hb ha
  cases op with
  | publish key m' =>
      have hkey : key = some r.key ∧ m' = m := by
        simpa [Reply.offered] using hoffer
      obtain ⟨rfl, rfl⟩ := hkey
      refine ⟨_, rfl, h.receives_iff.mpr ⟨r.key, rfl, ?_⟩⟩
      exact h.pending_iff.mpr ⟨r, hr, rfl, hnone⟩
  | unsubscribe k => simp [Reply.offered] at hoffer
  | fire k => simp [Reply.offered] at hoffer
  | subscribe _ _ _ => simp [Reply.offered] at hoffer
  | release k => simp [Reply.offered] at hoffer
  | close => simp [Reply.offered] at hoffer

/-- A reply that received a message receives no other. -/
theorem Sound.not_receives_again (h : Sound c) {key key' : Option String}
    {m m' : μ} {n : Nat} (hn : Receives c key m n) (later : List (Op μ)) :
    ¬ Receives ((c.step (.publish key m)).1.run later) key' m' n := by
  have hs := h.step (.publish key m)
  rintro ⟨hnone, hsome⟩
  by_cases hheld : .release n ∈ later
  · have hlt := hs.lt_next_of_outcome hn.2
    have hgone := hs.run_released hlt hheld
    have hstill := (hs.run later).reply?_step_none
      (Nat.lt_of_lt_of_le hlt (next_le_run _ later)) hgone
      (.publish key' m')
    simp [outcome?, hstill] at hsome
  · rw [hs.run_outcome hn.2 hheld] at hnone
    cases hnone

-- ============================================================ publications

/-- A publication in a run: what went before it, what was published, and
what came after it. -/
@[ext] structure Publication (ops : List (Op μ)) where
  before : List (Op μ)
  key : Option String
  message : μ
  after : List (Op μ)
  ops_eq : ops = before ++ .publish key message :: after

namespace Publication

variable {ops : List (Op μ)}

def state (p : Publication ops) : Correlator μ := run {} p.before

/-- The message comes back, and everything is as it was. -/
def ComesBack (p : Publication ops) : Prop :=
  p.state.step (.publish p.key p.message)
    = (p.state, .published (some p.message))

/-- Nothing comes back. -/
def IsTaken (p : Publication ops) : Prop :=
  (p.state.step (.publish p.key p.message)).2 = .published none

/-- The reply with a number receives the message. -/
def ReceivedBy (p : Publication ops) (n : Nat) : Prop :=
  Receives p.state p.key p.message n

theorem sound (p : Publication ops) : Sound p.state :=
  sound_empty.run p.before

/-- A message that nobody waits for comes back, and one that somebody
waits for is taken and has one receiver. -/
theorem fate (p : Publication ops) :
    (p.ComesBack ∧ ∀ n, ¬ p.ReceivedBy n)
      ∨ (p.IsTaken ∧ ∃! n, p.ReceivedBy n) := by
  obtain ⟨hfree, hback⟩ | ⟨n, k, hk, he, htaken⟩ :=
    p.sound.publish_cases p.key p.message
  · left
    refine ⟨?_, p.sound.not_receives hfree⟩
    show (p.state.publish p.key p.message).map id Answer.published = _
    rw [hback]
    rfl
  · right
    refine ⟨congrArg Answer.published htaken, n,
      p.sound.receives_iff.mpr ⟨k, hk, he⟩, fun n' hn' => ?_⟩
    exact p.sound.receives_unique hn' (p.sound.receives_iff.mpr ⟨k, hk, he⟩)

/-- Of two publications one goes before the other, or they are one. -/
theorem eq_or_before (p q : Publication ops) :
    p = q
      ∨ (∃ later, q.before
          = p.before ++ .publish p.key p.message :: later)
      ∨ ∃ later, p.before
          = q.before ++ .publish q.key q.message :: later := by
  have heq : p.before ++ .publish p.key p.message :: p.after
      = q.before ++ .publish q.key q.message :: q.after := by
    rw [← p.ops_eq, ← q.ops_eq]
  rcases List.append_eq_append_iff.mp heq with ⟨mid, hq, hp⟩ | ⟨mid, hp, hq⟩
  · cases mid with
    | nil =>
        obtain ⟨hop, hafter⟩ := List.cons.inj hp
        obtain ⟨hkey, hmsg⟩ := Op.publish.inj hop
        left
        exact Publication.ext (by simp [hq]) hkey hmsg hafter
    | cons op mid =>
        obtain ⟨rfl, -⟩ := List.cons.inj hp
        exact .inr (.inl ⟨mid, hq⟩)
  · cases mid with
    | nil =>
        obtain ⟨hop, hafter⟩ := List.cons.inj hq
        obtain ⟨hkey, hmsg⟩ := Op.publish.inj hop
        left
        exact Publication.ext (by simp [hp]) hkey.symm hmsg.symm
          hafter.symm
    | cons op mid =>
        obtain ⟨rfl, -⟩ := List.cons.inj hq
        exact .inr (.inr ⟨mid, hp⟩)

/-- A reply that goes first receives no second message. -/
theorem not_received_later {p q : Publication ops} {later : List (Op μ)}
    (hq : q.before = p.before ++ .publish p.key p.message :: later)
    {n : Nat} (hp : p.ReceivedBy n) : ¬ q.ReceivedBy n := by
  unfold ReceivedBy state
  rw [hq, run_append, run_cons]
  exact p.sound.not_receives_again hp later

/-- No two publications have one receiver. -/
theorem eq_of_receivedBy {p q : Publication ops} {n : Nat}
    (hp : p.ReceivedBy n) (hq : q.ReceivedBy n) : p = q := by
  obtain rfl | ⟨later, hbefore⟩ | ⟨later, hbefore⟩ := p.eq_or_before q
  · rfl
  · exact absurd hq (not_received_later hbefore hp)
  · exact absurd hp (not_received_later hbefore hq)

/-- Every message that a reply has was received in a publication. -/
theorem exists_of_outcome {n : Nat} {m : μ}
    (ho : (run {} ops).outcome? n = some (.ok m)) :
    ∃ p : Publication ops, p.message = m ∧ p.ReceivedBy n := by
  have hstart : ({} : Correlator μ).outcome? n ≠ some (.ok m) := by
    simp [outcome?, reply?]
  obtain ⟨before, op, after, rfl, hb, ha⟩ :=
    exists_step (P := fun c => c.outcome? n = some (.ok m)) hstart ho
  obtain ⟨key, rfl, hreceives⟩ :=
    (sound_empty.run before).receives_of_step hb ha
  exact ⟨⟨before, key, m, after, rfl⟩, rfl, hreceives⟩

end Publication

-- ============================================================ what has ended

/-- What ends the subscription with a number under a key, if it is
pending: a message under the key, its timer, its owner, or the closing. -/
inductive Ends (n : Nat) (key : String) : Op μ → Prop where
  | answered (m : μ) : Ends n key (.publish (some key) m)
  | expired : Ends n key (.fire n)
  | givenUp : Ends n key (.unsubscribe n)
  | letGo : Ends n key (.release n)
  | closed : Ends n key .close

/-- What ends a subscription takes it out of the table. -/
theorem Sound.not_mem_of_ends (h : Sound c) {n : Nat} {key : String}
    (hn : n < c.next) {op : Op μ} (hop : Ends n key op) :
    (⟨n, key⟩ : Entry) ∉ (c.step op).1.entries := by
  intro he
  obtain ⟨r', hr', hkey, ho'⟩ := (h.step op).pending_iff.mp he
  have hne : op ≠ .release n := by
    rintro rfl
    rw [h.reply?_step_release] at hr'
    cases hr'
  rw [h.reply?_step hn hne] at hr'
  obtain ⟨r, hr, rfl⟩ := Option.map_eq_some_iff.mp hr'
  have hnum : r.number = n := (h.reply?_eq_some.mp hr).2
  obtain ⟨hnone, hoffer⟩ : r.outcome = none ∧ r.offered c op = none := by
    simpa [Reply.after, Option.or_eq_none_iff] using ho'
  obtain rfl : r.key = key := hkey
  -- the subscription was pending, so each of these has an outcome for it
  have hpending : (⟨n, r.key⟩ : Entry) ∈ c.entries :=
    h.pending_iff.mpr ⟨r, hr, rfl, hnone⟩
  cases hop with
  | answered m => simp [Reply.offered] at hoffer
  | expired =>
      obtain ⟨t, ht, -⟩ := h.exists_timer hpending
      simp [Reply.offered, hnum, ht] at hoffer
  | givenUp => simp [Reply.offered, hnum] at hoffer
  | letGo => exact hne rfl
  | closed => simp [Reply.offered] at hoffer

/-- Nothing else takes it out. -/
theorem Sound.ends_of_step (h : Sound c) {e : Entry} {op : Op μ}
    (hb : e ∈ c.entries) (ha : e ∉ (c.step op).1.entries) :
    Ends e.number e.key op := by
  obtain ⟨r, hr, hkey, hnone⟩ := h.pending_iff.mp hb
  by_cases hop : op = .release e.number
  · rw [hop]
    exact .letGo
  · have hr' := h.reply?_step_some hr hop
    have hoffer : r.offered c op ≠ none := by
      intro hnothing
      rw [Reply.after_eq_self hnothing] at hr'
      exact ha ((h.step op).pending_iff.mpr ⟨r, hr', hkey, hnone⟩)
    have hnumber : r.number = e.number := (h.reply?_eq_some.mp hr).2
    cases op with
    | subscribe now key span => exact absurd rfl hoffer
    | release n => exact absurd rfl hoffer
    | close => exact .closed
    | publish key m =>
        by_cases hsame : key = some r.key
        · rw [hsame, hkey]
          exact .answered m
        · exact absurd (if_neg hsame) hoffer
    | unsubscribe n =>
        by_cases hsame : r.number = n
        · rw [← hsame, hnumber]
          exact .givenUp
        · exact absurd (if_neg hsame) hoffer
    | fire n =>
        by_cases hsame : r.number = n
        · rw [← hsame, hnumber]
          exact .expired
        · exact absurd (if_neg hsame) hoffer

namespace Subscription

variable {ops : List (Op μ)}

/-- A subscription that was ended is not in the table any more. -/
theorem ended (s : Subscription ops)
    (hends : ∃ op ∈ s.after, Ends s.reply.number s.key op) :
    s.reply.entry ∉ (run {} ops).entries := by
  obtain ⟨op, hop, hends⟩ := hends
  obtain ⟨before, after, hafter⟩ := List.append_of_mem hop
  have hlt : s.reply.number < (s.entered.run before).next :=
    Nat.lt_of_lt_of_le s.number_lt_next (next_le_run _ before)
  have hout := (s.entered_sound.run before).not_mem_of_ends hlt hends
  rw [s.run_eq, hafter, run_append, run_cons]
  intro he
  rcases mem_entries_run he with hmem | hnew
  · rw [show s.reply.entry = ⟨s.reply.number, s.key⟩ from
      congrArg _ s.key_eq] at hmem
    exact hout hmem
  · exact Nat.not_le_of_lt hlt
      (Nat.le_trans (next_le_step _ op) hnew)

/-- What is in the table under the key of a subscription is that
subscription or a newer one. -/
theorem eq_or_newer (s : Subscription ops) {e : Entry}
    (he : e ∈ (run {} ops).entries) (hkey : e.key = s.key) :
    e = s.reply.entry ∨ s.reply.number < e.number := by
  rw [s.run_eq] at he
  rcases mem_entries_run he with hmem | hnew
  · left
    exact s.entered_sound.eq_of_key hmem s.entry_mem_entered
      (hkey.trans s.key_eq.symm)
  · right
    exact Nat.lt_of_lt_of_le s.number_lt_next hnew

end Subscription

/-- Messages are conserved. In every run

- a message that is published comes back and no reply receives it, or it
  is taken and exactly one reply receives it;
- the reply that receives it is the one whose subscription is pending
  under the key of the message at the moment of publishing;
- no two publications have one receiver, and every message that is the
  outcome of a reply was received in a publication;
- a message without a key comes back, and so does one under the key of a
  subscription that was ended, unless a newer subscription under the key
  is pending. -/
theorem messages_are_conserved (ops : List (Op μ)) :
    (∀ p : Publication ops,
        (p.ComesBack ∧ ∀ n, ¬ p.ReceivedBy n)
        ∨ (p.IsTaken ∧ ∃! n, p.ReceivedBy n))
    ∧ (∀ (p : Publication ops) (n : Nat),
        p.ReceivedBy n
        ↔ ∃ k, p.key = some k ∧ (⟨n, k⟩ : Entry) ∈ p.state.entries)
    ∧ (∀ (p q : Publication ops) (n : Nat),
        p.ReceivedBy n → q.ReceivedBy n → p = q)
    ∧ (∀ n m, (run {} ops).outcome? n = some (.ok m) →
        ∃ p : Publication ops, p.message = m ∧ p.ReceivedBy n)
    ∧ (∀ p : Publication ops, p.key = none → p.ComesBack)
    ∧ ∀ (p : Publication ops) (s : Subscription p.before),
        p.key = some s.key →
        (∃ op ∈ s.after, Ends s.reply.number s.key op) →
        p.ComesBack
        ∨ ∃ s' : Subscription p.before, s'.key = s.key
            ∧ s.reply.number < s'.reply.number
            ∧ s'.reply.entry ∈ p.state.entries := by
  refine ⟨fun p => p.fate, fun p n => p.sound.receives_iff,
    fun p q n => Publication.eq_of_receivedBy,
    fun n m => Publication.exists_of_outcome, fun p hkey => ?_,
    fun p s hkey hends => ?_⟩
  · obtain ⟨hback, -⟩ | ⟨-, n, hn, -⟩ := p.fate
    · exact hback
    · obtain ⟨k, hk, -⟩ := p.sound.receives_iff.mp hn
      rw [hkey] at hk
      cases hk
  · obtain ⟨hback, -⟩ | ⟨-, n, hn, -⟩ := p.fate
    · exact .inl hback
    · right
      obtain ⟨k, hk, he⟩ := p.sound.receives_iff.mp hn
      obtain rfl : s.key = k := Option.some.inj (hkey.symm.trans hk)
      obtain ⟨s', rfl, hkey'⟩ := Subscription.exists_of_entry he
      refine ⟨s', hkey', ?_, ?_⟩
      · obtain heq | hnewer := s.eq_or_newer he rfl
        · exact absurd (heq ▸ he) (s.ended hends)
        · exact hnewer
      · rw [show s'.reply.entry = ⟨s'.reply.number, s.key⟩ from
          congrArg _ (s'.key_eq.trans hkey')]
        exact he

end DeviceTwin.Correlator
