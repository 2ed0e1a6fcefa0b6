/-
Deadlines, where a clock runs.

In a run of `Proofs.Correlator.Run` a timer may fire at any time. Here the
operations stand between lapses of a clock, and a timer that has its turn
fires only if its deadline has come (`Clocked.op?`). Turns may come in any
order and as late as they like, so one lapse can put many timers past their
deadlines, and other operations can come between the lapse and the turns of
the timers. What is done to the table is an ordinary run (`table_run`), so
all that is known of runs holds here as well.

# Both directions

What ends a subscription is known (`Ends`), and nothing else takes it out of
the table (`Sound.ends_of_step`). Under a clock one of these ends depends on
the time, the turn of its own timer. So a subscription is pending exactly
as long as nobody disturbed it and its timer had no turn at or after its
deadline (`Subscription.pending_iff`). From left to right this says that no
subscription outlives its deadline once its timer has had its turn, from
right to left that none ends by its timer before.
-/
import DeviceTwin.Proofs.Correlator.Message

namespace DeviceTwin.Correlator

variable {μ : Type}

-- =============================================================== under a clock

/-- A table with the clock that it is under. -/
structure Clocked (μ : Type) where
  now : Nat := 0
  table : Correlator μ := {}

/-- What can happen while a clock runs. -/
inductive Turn (μ : Type) where
  /-- The clock moves on. -/
  | lapse (nanos : Nat)
  | subscribe (key : String) (span : Span)
  | publish (key : Option String) (m : μ)
  /-- The owner of the reply with a number gives its subscription up. -/
  | unsubscribe (number : Nat)
  /-- The owner of the reply with a number lets go of it. -/
  | release (number : Nat)
  /-- The timer that is armed for a number has its turn. -/
  | wake (number : Nat)
  | close

/-- By how much the clock moves. -/
def Turn.lapsed : Turn μ → Nat
  | .lapse nanos => nanos
  | _ => 0

namespace Clocked

/-- Whether a timer is armed for a number and its deadline has come. -/
def isDue (s : Clocked μ) (n : Nat) : Bool :=
  (s.table.timer? n).any (·.deadline ≤ s.now)

/-- What a turn does to the table, if anything: a subscription is made at the
time of the clock, and a timer fires if it is due. -/
def op? (s : Clocked μ) : Turn μ → Option (Op μ)
  | .lapse _ => none
  | .subscribe key span => some (.subscribe s.now key span)
  | .publish key m => some (.publish key m)
  | .unsubscribe n => some (.unsubscribe n)
  | .release n => some (.release n)
  | .wake n => if s.isDue n then some (.fire n) else none
  | .close => some .close

/-- A turn moves the clock, or does to the table what it does at its time. -/
def turn (s : Clocked μ) (t : Turn μ) : Clocked μ where
  now := s.now + t.lapsed
  table := s.table.run (s.op? t).toList

/-- The table and the clock after a run of turns. -/
def run (s : Clocked μ) (turns : List (Turn μ)) : Clocked μ := turns.foldl turn s

/-- What is done to the table in a run. -/
def ops (s : Clocked μ) : List (Turn μ) → List (Op μ)
  | [] => []
  | t :: turns => (s.op? t).toList ++ (s.turn t).ops turns

/-- A longer run is the later turns after the earlier ones. -/
theorem run_append (s : Clocked μ) (turns later : List (Turn μ)) :
    s.run (turns ++ later) = (s.run turns).run later := List.foldl_append

theorem run_cons (s : Clocked μ) (t : Turn μ) (turns : List (Turn μ)) :
    s.run (t :: turns) = (s.turn t).run turns := rfl

/-- A run under a clock is a run. -/
theorem table_run (turns : List (Turn μ)) :
    ∀ s : Clocked μ, (s.run turns).table = s.table.run (s.ops turns) := by
  induction turns with
  | nil => exact fun _ => rfl
  | cons t turns ih =>
      intro s
      rw [run_cons, ih (s.turn t), ops, Correlator.run_append]
      rfl

/-- What is done in a run is what is done in its parts. -/
theorem ops_append (turns later : List (Turn μ)) :
    ∀ s : Clocked μ, s.ops (turns ++ later) = s.ops turns ++ (s.run turns).ops later := by
  induction turns with
  | nil => exact fun _ => rfl
  | cons t turns ih =>
      intro s
      rw [List.cons_append, ops, ih (s.turn t), ops, List.append_assoc]
      rfl

/-- What does not hold before a run and holds after it came about in one
of its turns. -/
theorem exists_turn {P : Clocked μ → Prop} {turns : List (Turn μ)} :
    ∀ {s : Clocked μ}, ¬ P s → P (s.run turns) →
      ∃ before t after, turns = before ++ t :: after
        ∧ ¬ P (s.run before) ∧ P ((s.run before).turn t) := by
  induction turns with
  | nil => exact fun hn hp => absurd hp hn
  | cons t turns ih =>
      intro s hn hp
      by_cases hnow : P (s.turn t)
      · exact ⟨[], t, turns, rfl, hn, hnow⟩
      · obtain ⟨before, t', after, rfl, hb, ha⟩ := ih hnow hp
        exact ⟨t :: before, t', after, rfl, hb, ha⟩

/-- The table after a turn is that after its operation. -/
theorem table_turn {s : Clocked μ} {t : Turn μ} {op : Op μ} (hop : s.op? t = some op) :
    (s.turn t).table = (s.table.step op).1 := by
  simp only [turn, hop]
  rfl

/-- Where the table is not what it was, a turn did something to it. -/
theorem exists_op {s : Clocked μ} {t : Turn μ} {P : Correlator μ → Prop}
    (hb : ¬ P s.table) (ha : P (s.turn t).table) :
    ∃ op, s.op? t = some op ∧ P (s.table.step op).1 := by
  cases hop : s.op? t with
  | none =>
      have hsame : (s.turn t).table = s.table := by
        simp only [turn, hop]
        rfl
      rw [hsame] at ha
      exact absurd ha hb
  | some op =>
      rw [table_turn hop] at ha
      exact ⟨op, rfl, ha⟩

/-- The turn in which an operation is done. -/
def turnOf : Op μ → Turn μ
  | .subscribe _ key span => .subscribe key span
  | .publish key m => .publish key m
  | .unsubscribe n => .unsubscribe n
  | .release n => .release n
  | .fire n => .wake n
  | .close => .close

/-- An operation is done in its own turn only. -/
theorem eq_turnOf {s : Clocked μ} {t : Turn μ} {op : Op μ} (h : s.op? t = some op) :
    t = turnOf op := by
  cases t with
  | lapse => cases h
  | wake n =>
      simp only [op?] at h
      split at h
      · rw [← Option.some.inj h]
        rfl
      · cases h
  | subscribe | publish | unsubscribe | release | close =>
      rw [← Option.some.inj h]
      rfl

/-- A timer fires only if it is due. -/
theorem timer_of_fire {s : Clocked μ} {t : Turn μ} {n : Nat} (h : s.op? t = some (.fire n)) :
    ∃ timer, s.table.timer? n = some timer ∧ timer.deadline ≤ s.now := by
  obtain rfl := eq_turnOf h
  simp only [turnOf, op?] at h
  split at h
  case isFalse => cases h
  case isTrue hdue => simpa [isDue, Option.any_eq_true] using hdue

/-- A timer that is due fires in its turn. -/
theorem op?_wake {s : Clocked μ} {n : Nat} {timer : Timer}
    (htimer : s.table.timer? n = some timer) (hdue : timer.deadline ≤ s.now) :
    s.op? (.wake n) = some (.fire n) := by
  have : s.isDue n = true := by simp [isDue, htimer, hdue]
  simp [op?, this]

-- ============================================================== subscriptions

/-- A subscription that was admitted in a run under a clock: what went before
it, what it was, what came after it, and the reply that its owner got. -/
structure Subscription (turns : List (Turn μ)) where
  before : List (Turn μ)
  key : String
  span : Span
  after : List (Turn μ)
  reply : Reply μ
  turns_eq : turns = before ++ .subscribe key span :: after
  admitted : ((run {} before).table.subscribe (run {} before).now key span).2 = .ok reply

namespace Subscription

variable {turns : List (Turn μ)}

/-- The time at which the subscription was made. -/
def now (b : Subscription turns) : Nat := (run {} b.before : Clocked μ).now

/-- The number of the subscription. -/
def number (b : Subscription turns) : Nat := b.reply.number

/-- What is there after the subscription and some turns. -/
def state (b : Subscription turns) (later : List (Turn μ)) : Clocked μ :=
  run {} (b.before ++ .subscribe b.key b.span :: later)

/-- The same subscription, when some of the later turns are still to come. -/
def upTo (b : Subscription turns) (later : List (Turn μ)) :
    Subscription (b.before ++ .subscribe b.key b.span :: later) :=
  ⟨b.before, b.key, b.span, later, b.reply, rfl, b.admitted⟩

/-- The subscription without the clock. -/
def plain (b : Subscription turns) : Correlator.Subscription (ops {} turns) where
  before := ops {} b.before
  now := b.now
  key := b.key
  span := b.span
  after := ((run {} b.before).turn (.subscribe b.key b.span)).ops b.after
  reply := b.reply
  ops_eq := by
    conv_lhs => rw [b.turns_eq]
    rw [ops_append]
    rfl
  admitted := by
    have htable : Correlator.run {} (ops {} b.before) = (run {} b.before : Clocked μ).table :=
      (table_run b.before {}).symm
    rw [htable]
    exact congrArg Answer.subscribed b.admitted

/-- After all the later turns it is the end of the run. -/
theorem state_after (b : Subscription turns) : b.state b.after = run {} turns := by
  rw [state, ← b.turns_eq]

/-- More turns lead on from where the others have led. -/
theorem state_append (b : Subscription turns) (later more : List (Turn μ)) :
    b.state (later ++ more) = (b.state later).run more := by
  rw [state, state, ← run_append, List.append_assoc, List.cons_append]

/-- One more turn leads on by that turn. -/
theorem state_concat (b : Subscription turns) (later : List (Turn μ)) (t : Turn μ) :
    b.state (later ++ [t]) = (b.state later).turn t := b.state_append later [t]

/-- What came about after a subscription came about in a turn after it. -/
theorem exists_turn_after (b : Subscription turns) {P : Clocked μ → Prop} {later : List (Turn μ)}
    (hb : ¬ P (b.state [])) (ha : P (b.state later)) :
    ∃ mid t rest, later = mid ++ t :: rest
      ∧ ¬ P (b.state mid) ∧ P ((b.state mid).turn t) := by
  have hstate : ∀ mid, (b.state []).run mid = b.state mid :=
    fun mid => (b.state_append [] mid).symm
  rw [← hstate later] at ha
  obtain ⟨mid, t, rest, rfl, hmid, hturn⟩ := exists_turn hb ha
  rw [hstate mid] at hmid hturn
  exact ⟨mid, t, rest, rfl, hmid, hturn⟩

/-- What is known of tables is known of every table under a clock. -/
theorem sound_state (b : Subscription turns) (later : List (Turn μ)) :
    Sound (b.state later).table := by
  rw [state, table_run]
  exact sound_empty.run _

/-- The table is the one that the operations lead to. -/
theorem state_eq_plain (b : Subscription turns) (later : List (Turn μ)) :
    (b.state later).table = Correlator.run {} (ops {} (b.before ++ .subscribe b.key b.span :: later)) :=
  table_run _ _

/-- The timer that is armed for the subscription, if there is one, has its
deadline. -/
theorem timer_eq (b : Subscription turns) {later : List (Turn μ)} {t : Timer}
    (ht : (b.state later).table.timer? b.number = some t) :
    t = ⟨b.number, b.key, b.reply.deadline, b.span⟩ := by
  obtain ⟨hmem, hn⟩ := (b.sound_state later).timer?_eq_some.mp ht
  rw [b.state_eq_plain] at hmem
  exact (b.upTo later).plain.timer_eq hmem hn

/-- As long as the subscription is pending its timer is armed. -/
theorem timer? (b : Subscription turns) {later : List (Turn μ)}
    (he : b.reply.entry ∈ (b.state later).table.entries) :
    (b.state later).table.timer? b.number
      = some ⟨b.number, b.key, b.reply.deadline, b.span⟩ := by
  obtain ⟨t, ht, -⟩ := (b.sound_state later).exists_timer he
  have htimer : (b.state later).table.timer? b.number = some t := ht
  rw [htimer, b.timer_eq htimer]

/-- In the table the subscription stands under its number and its key. -/
theorem entry_eq (b : Subscription turns) : b.reply.entry = ⟨b.number, b.key⟩ :=
  congrArg _ b.plain.key_eq

/-- The deadline is that of the span from the time of the subscription on. -/
theorem deadline_eq (b : Subscription turns) :
    b.reply.deadline
      = if b.now + b.span.nanos ≤ Clock.last then b.now + b.span.nanos
        else b.now + Span.thirtyYears.nanos := by
  have hdeadline : b.reply.deadline = b.span.deadline b.now :=
    congrArg Reply.deadline b.plain.reply_eq
  rw [hdeadline, Span.deadline_eq]

/-- Its number is not given out again. -/
theorem number_lt_next (b : Subscription turns) (later : List (Turn μ)) :
    b.number < (b.state later).table.next := by
  have hlt := (b.upTo later).plain.number_lt_next
  rw [b.state_eq_plain, (b.upTo later).plain.run_eq]
  exact Nat.lt_of_lt_of_le hlt (next_le_run _ _)

/-- It is in the table as soon as it is made. -/
theorem entry_mem_start (b : Subscription turns) :
    b.reply.entry ∈ (b.state []).table.entries := by
  rw [b.state_eq_plain, (b.upTo []).plain.run_eq]
  exact (b.upTo []).plain.entry_mem_entered

/-- A pending subscription was pending before, back to its beginning. -/
theorem entry_mem_of_append (b : Subscription turns) {mid rest : List (Turn μ)}
    (he : b.reply.entry ∈ (b.state (mid ++ rest)).table.entries) :
    b.reply.entry ∈ (b.state mid).table.entries := by
  rw [state_append, table_run] at he
  rcases mem_entries_run he with hmem | hnew
  · exact hmem
  · have hlt := b.number_lt_next mid
    exact absurd hnew (Nat.not_le_of_lt hlt)

/-- What ends a subscription takes it out of the table, and it is never in
it again. -/
theorem not_mem_of_ends (b : Subscription turns) {mid rest : List (Turn μ)} {t : Turn μ}
    {op : Op μ} (hop : (b.state mid).op? t = some op) (hends : Ends b.number b.key op) :
    b.reply.entry ∉ (b.state (mid ++ t :: rest)).table.entries := by
  intro he
  rw [← List.singleton_append, ← List.append_assoc] at he
  have hnext := b.entry_mem_of_append he
  rw [state_concat, table_turn hop, entry_eq] at hnext
  exact (b.sound_state mid).not_mem_of_ends (b.number_lt_next mid) hends hnext

-- ============================================================ how long it waits

/-- Nobody did anything about a subscription: no message came under its key,
it was neither given up nor let go of, and the table was not closed. -/
structure Undisturbed (b : Subscription turns) (later : List (Turn μ)) : Prop where
  unanswered : ∀ m, .publish (some b.key) m ∉ later
  kept : .unsubscribe b.number ∉ later
  held : .release b.number ∉ later
  opened : .close ∉ later

/-- The timer of a subscription had no turn at or after the deadline. -/
def Unexpired (b : Subscription turns) (later : List (Turn μ)) : Prop :=
  ∀ mid rest, later = mid ++ .wake b.number :: rest → (b.state mid).now < b.reply.deadline

/-- A subscription is pending exactly as long as nobody disturbed it and its
timer had no turn at or after its deadline. -/
theorem pending_iff (b : Subscription turns) (later : List (Turn μ)) :
    b.reply.entry ∈ (b.state later).table.entries
      ↔ b.Undisturbed later ∧ b.Unexpired later := by
  constructor
  · intro he
    refine ⟨⟨fun m hm => ?_, fun hm => ?_, fun hm => ?_, fun hm => ?_⟩, ?_⟩
    · obtain ⟨mid, rest, rfl⟩ := List.append_of_mem hm
      exact b.not_mem_of_ends rfl (.answered m) he
    · obtain ⟨mid, rest, rfl⟩ := List.append_of_mem hm
      exact b.not_mem_of_ends rfl .givenUp he
    · obtain ⟨mid, rest, rfl⟩ := List.append_of_mem hm
      exact b.not_mem_of_ends rfl .letGo he
    · obtain ⟨mid, rest, rfl⟩ := List.append_of_mem hm
      exact b.not_mem_of_ends rfl .closed he
    · rintro mid rest rfl
      by_contra hdue
      have htimer := b.timer? (b.entry_mem_of_append he)
      exact b.not_mem_of_ends (op?_wake htimer (Nat.le_of_not_lt hdue)) .expired he
  · rintro ⟨hundisturbed, hunexpired⟩
    by_contra hout
    obtain ⟨mid, t, rest, rfl, hb, ha⟩ :=
      b.exists_turn_after (P := fun s => b.reply.entry ∉ s.table.entries)
        (not_not_intro b.entry_mem_start) hout
    obtain ⟨op, hop, ha⟩ := exists_op (P := fun c => b.reply.entry ∉ c.entries) hb ha
    have hends := (b.sound_state mid).ends_of_step (not_not.mp hb) ha
    rw [entry_eq] at hends
    have ht : t ∈ mid ++ t :: rest := List.mem_append_right _ List.mem_cons_self
    obtain rfl := eq_turnOf hop
    cases hends with
    | answered m => exact hundisturbed.unanswered m ht
    | givenUp => exact hundisturbed.kept ht
    | letGo => exact hundisturbed.held ht
    | closed => exact hundisturbed.opened ht
    | expired =>
        obtain ⟨timer, htimer, hdue⟩ := timer_of_fire hop
        rw [b.timer_eq htimer] at hdue
        exact Nat.not_le_of_lt (hunexpired mid rest rfl) hdue

-- =================================================================== timing out

/-- A turn lets a subscription time out: it has no outcome before, and
afterwards the one that names a key and a span. -/
def TimesOut (b : Subscription turns) (mid : List (Turn μ)) (t : Turn μ) (key : String)
    (span : Span) : Prop :=
  (b.state mid).table.outcome? b.number = none
  ∧ (b.state (mid ++ [t])).table.outcome? b.number = some (.error (.timeout key span))

/-- The outcome of a timer is offered by that timer only. -/
theorem fires_of_offered {c : Correlator μ} {r : Reply μ} {op : Op μ} {key : String} {span : Span}
    (h : r.offered c op = some (.error (.timeout key span))) :
    op = .fire r.number ∧ ∃ t, c.timer? r.number = some t ∧ t.key = key ∧ t.span = span := by
  cases op with
  | fire n =>
      by_cases hn : r.number = n
      · obtain rfl := hn
        simp only [Reply.offered, if_true] at h
        obtain ⟨t, ht, heq⟩ := Option.map_eq_some_iff.mp h
        simp only [Except.error.injEq, ReplyError.timeout.injEq] at heq
        exact ⟨rfl, t, ht, heq⟩
      · simp [Reply.offered, hn] at h
  | publish key' m => simp [Reply.offered] at h
  | unsubscribe n => simp [Reply.offered] at h
  | subscribe _ _ _ => cases h
  | release n => cases h
  | close => cases h

/-- What there is to say about a turn after which the outcome is that of a
timer, and before which it was not. -/
theorem due_of_outcome (b : Subscription turns) {mid : List (Turn μ)} {t : Turn μ}
    {key : String} {span : Span}
    (hb : (b.state mid).table.outcome? b.number ≠ some (.error (.timeout key span)))
    (ha : (b.state (mid ++ [t])).table.outcome? b.number = some (.error (.timeout key span))) :
    b.TimesOut mid t key span ∧ t = .wake b.number ∧ key = b.key ∧ span = b.span
      ∧ b.reply.deadline ≤ (b.state mid).now
      ∧ b.reply.entry ∈ (b.state mid).table.entries := by
  have hafter := ha
  rw [state_concat] at ha
  obtain ⟨op, hop, ha⟩ := exists_op
    (P := fun c => c.outcome? b.number = some (.error (.timeout key span))) hb ha
  have h := b.sound_state mid
  obtain ⟨r, hr, hnone, hoffer⟩ := h.offered_of_step hb ha
  have hn : r.number = b.number := (h.reply?_eq_some.mp hr).2
  obtain ⟨rfl, timer, htimer, rfl, rfl⟩ := fires_of_offered hoffer
  rw [hn] at hop htimer
  obtain rfl := b.timer_eq htimer
  obtain ⟨timer', htimer', hdue⟩ := timer_of_fire hop
  obtain rfl := Option.some.inj (htimer.symm.trans htimer')
  have hentry := h.timer_mem (h.timer?_eq_some.mp htimer).1
  refine ⟨⟨?_, hafter⟩, eq_turnOf hop, rfl, rfl, hdue, ?_⟩
  · simp [outcome?, hr, hnone]
  · rw [entry_eq]
    exact hentry

/-- A subscription times out in the first turn that its timer has at or after
its deadline, if nobody disturbed it until then, and in no other turn; what
the outcome names is its own key and its own span. -/
theorem timesOut_iff (b : Subscription turns) (mid : List (Turn μ)) (t : Turn μ) (key : String)
    (span : Span) :
    b.TimesOut mid t key span
      ↔ t = .wake b.number ∧ key = b.key ∧ span = b.span
        ∧ b.reply.deadline ≤ (b.state mid).now ∧ b.Undisturbed mid ∧ b.Unexpired mid := by
  rw [← b.pending_iff mid]
  constructor
  · rintro ⟨hb, ha⟩
    exact (b.due_of_outcome (by rw [hb]; exact nofun) ha).2
  · rintro ⟨rfl, rfl, rfl, hdue, he⟩
    have h := b.sound_state mid
    have htimer := b.timer? he
    have hop := op?_wake htimer hdue
    rw [entry_eq] at he
    obtain ⟨r, hr, hkey, hnone⟩ := h.pending_iff.mp he
    have hn : r.number = b.number := (h.reply?_eq_some.mp hr).2
    have hkept : (.fire b.number : Op μ) ≠ .release b.number := nofun
    have hr' := h.reply?_step_some hr hkept
    refine ⟨by simp [outcome?, hr, hnone], ?_⟩
    rw [state_concat, table_turn hop]
    simp [outcome?, hr', Reply.after, hnone, Reply.offered, hn, htimer]

/-- Whatever timed out did so in one of the turns. -/
theorem exists_timesOut (b : Subscription turns) {later : List (Turn μ)} {key : String}
    {span : Span}
    (ho : (b.state later).table.outcome? b.number = some (.error (.timeout key span))) :
    ∃ mid t rest, later = mid ++ t :: rest ∧ b.TimesOut mid t key span := by
  have hstart : (b.state []).table.outcome? b.number ≠ some (.error (.timeout key span)) := by
    have he := b.entry_mem_start
    rw [entry_eq] at he
    obtain ⟨r, hr, -, hnone⟩ := (b.sound_state []).pending_iff.mp he
    simp [outcome?, hr, hnone]
  obtain ⟨mid, t, rest, rfl, hb, ha⟩ := b.exists_turn_after
    (P := fun s => s.table.outcome? b.number = some (.error (.timeout key span))) hstart ho
  rw [← state_concat] at ha
  exact ⟨mid, t, rest, rfl, (b.due_of_outcome hb ha).1⟩

end Subscription

/-- Every entry is that of a subscription. -/
theorem Subscription.exists_of_mem {turns : List (Turn μ)} {e : Entry}
    (he : e ∈ (run {} turns : Clocked μ).table.entries) :
    ∃ b : Subscription turns, b.reply.entry = e := by
  have hstart : e ∉ ({} : Clocked μ).table.entries := by simp
  obtain ⟨before, t, after, rfl, hb, ha⟩ :=
    exists_turn (P := fun s => e ∈ s.table.entries) hstart he
  obtain ⟨op, hop, hnew⟩ := exists_op (P := fun c => e ∈ c.entries) hb ha
  obtain h | ⟨now, key, span, rfl, hstep⟩ := (run {} before : Clocked μ).table.step_cases op
  · exact absurd (h.entries hnew) hb
  · obtain rfl := eq_turnOf hop
    obtain ⟨rfl, -, -⟩ := Op.subscribe.inj (Option.some.inj hop)
    rw [hstep] at hnew
    refine ⟨⟨before, key, span, after, _, rfl,
      Answer.subscribed.inj (congrArg Prod.snd hstep)⟩, ?_⟩
    rcases List.mem_append.mp hnew with hold | hown
    · exact absurd hold hb
    · exact (List.mem_singleton.mp hown).symm

-- ============================================================= all that are due

/-- The turns of timers take no time. -/
theorem now_wakes (order : List Nat) :
    ∀ s : Clocked μ, (s.run (order.map .wake)).now = s.now := by
  induction order with
  | nil => exact fun _ => rfl
  | cons n order ih =>
      intro s
      rw [List.map_cons, run_cons, ih (s.turn (.wake n))]
      rfl

/-- The turns of timers only end subscriptions. -/
theorem settles_wakes (order : List Nat) :
    ∀ s : Clocked μ, Settles s.table (s.run (order.map .wake)).table := by
  induction order with
  | nil => exact fun s => .refl s.table
  | cons n order ih =>
      intro s
      have hone : Settles s.table (s.turn (.wake n)).table := by
        by_cases hdue : s.isDue n = true
        · have hop : s.op? (.wake n) = some (.fire n) := by simp [op?, hdue]
          rw [table_turn hop]
          exact .step s.table (by simp) (by simp)
        · have hidle : s.op? (.wake n) = none := by simp [op?, hdue]
          simp only [turn, hidle]
          exact .refl s.table
      exact hone.trans (ih (s.turn (.wake n)))

/-- When all timers that are due have had their turns, in any order, no
subscription is pending whose deadline has come. -/
theorem lt_deadline_of_mem_wakes {turns : List (Turn μ)} {order : List Nat}
    (hall : ∀ t ∈ (run {} turns : Clocked μ).table.timers,
      t.deadline ≤ (run {} turns : Clocked μ).now → t.number ∈ order)
    {e : Entry} (he : e ∈ ((run {} turns : Clocked μ).run (order.map .wake)).table.entries) :
    ∃ b : Subscription turns,
      b.reply.entry = e ∧ (run {} turns : Clocked μ).now < b.reply.deadline := by
  obtain ⟨b, rfl⟩ := Subscription.exists_of_mem ((settles_wakes order _).entries he)
  refine ⟨b, rfl, ?_⟩
  by_contra hdue
  rw [← b.state_after] at hall hdue he
  rw [← b.state_append] at he
  have htimer := b.timer? (b.entry_mem_of_append he)
  have hmem := hall _ ((b.sound_state _).timer?_eq_some.mp htimer).1 (Nat.le_of_not_lt hdue)
  obtain ⟨first, last, rfl⟩ := List.append_of_mem hmem
  have hturn := ((b.pending_iff _).mp he).2 (b.after ++ first.map .wake) (last.map .wake) (by simp)
  rw [b.state_append, now_wakes] at hturn
  exact hdue hturn

/-- Timers that are due and fire one after the other have their turns one
after the other. -/
theorem table_wakes (l : List Timer) :
    ∀ {s : Clocked μ}, Sound s.table → l ⊆ s.table.timers → (l.map (·.number)).Nodup →
      (∀ t ∈ l, t.deadline ≤ s.now) →
      (s.run ((l.map (·.number)).map .wake)).table = l.foldl fire s.table := by
  induction l with
  | nil => exact fun _ _ _ _ => rfl
  | cons t l ih =>
      intro s h hl hn hdue
      rw [List.map_cons, List.nodup_cons] at hn
      obtain ⟨ht, hl⟩ := List.cons_subset.mp hl
      have htimer := h.timer?_eq_some.mpr ⟨ht, rfl⟩
      have hfire : (s.turn (.wake t.number)).table = s.table.fire t := by
        rw [table_turn (op?_wake htimer (hdue t List.mem_cons_self)), step_fire htimer]
      rw [List.map_cons, List.map_cons, run_cons, List.foldl_cons, ← hfire]
      refine ih ?_ (fun u hu => ?_) hn.2 fun u hu => hdue u (List.mem_cons_of_mem _ hu)
      · rw [hfire]
        exact h.fire t
      · rw [hfire]
        refine mem_timers_fire (hl hu) fun heq => hn.1 ?_
        rw [← heq]
        exact List.mem_map_of_mem hu

/-- To let everything expire is to give every timer that is due its turn. -/
theorem exists_expire_eq (turns : List (Turn μ)) :
    ∃ order : List Nat,
      (∀ t ∈ (run {} turns : Clocked μ).table.timers,
        t.deadline ≤ (run {} turns : Clocked μ).now → t.number ∈ order)
      ∧ (run {} turns : Clocked μ).table.expire (run {} turns : Clocked μ).now
        = ((run {} turns : Clocked μ).run (order.map .wake)).table := by
  have h : Sound (run {} turns : Clocked μ).table := by
    rw [table_run]
    exact sound_empty.run _
  refine ⟨_, fun t ht hdue => ?_, (table_wakes _ h (List.filter_subset_self _)
    ((List.filter_sublist.map _).nodup h.timer_numbers) ?_).symm⟩
  · exact List.mem_map_of_mem (List.mem_filter.mpr ⟨ht, decide_eq_true hdue⟩)
  · intro t ht
    exact of_decide_eq_true (List.mem_filter.mp ht).2

/-- Deadlines are exact. In every run under a clock

- the deadline of a subscription is the sum of its own time and its own span if a
  clock can show that time, and otherwise thirty years off;
- it times out in the first turn that its timer has at or after the deadline,
  if until then no message came under its key, its owner neither gave it up
  nor let go of it and the table was not closed, and in no other turn; and
  the outcome names its own key and span;
- there is no such outcome without such a turn;
- it is pending exactly as long as none of this happened;
- and when all timers that are due have had their turns, in any order or as
  the client lets them expire, nothing is pending whose deadline has come. -/
theorem deadlines_are_exact (turns : List (Turn μ)) :
    let s : Clocked μ := run {} turns
    (∀ b : Subscription turns,
      b.reply.key = b.key
      ∧ b.reply.deadline = (if b.now + b.span.nanos ≤ Clock.last then b.now + b.span.nanos
          else b.now + Span.thirtyYears.nanos)
      ∧ (∀ mid t rest key span, b.after = mid ++ t :: rest →
          (b.TimesOut mid t key span
            ↔ t = .wake b.number ∧ key = b.key ∧ span = b.span
              ∧ b.reply.deadline ≤ (b.state mid).now
              ∧ b.Undisturbed mid ∧ b.Unexpired mid))
      ∧ (∀ key span, s.table.outcome? b.number = some (.error (.timeout key span)) →
          ∃ mid t rest, b.after = mid ++ t :: rest ∧ b.TimesOut mid t key span)
      ∧ (b.reply.entry ∈ s.table.entries ↔ b.Undisturbed b.after ∧ b.Unexpired b.after))
    ∧ (∀ order : List Nat,
        (∀ t ∈ s.table.timers, t.deadline ≤ s.now → t.number ∈ order) →
        ∀ e ∈ (s.run (order.map .wake)).table.entries,
          ∃ b : Subscription turns, b.reply.entry = e ∧ s.now < b.reply.deadline)
    ∧ ∀ e ∈ (s.table.expire s.now).entries,
        ∃ b : Subscription turns, b.reply.entry = e ∧ s.now < b.reply.deadline := by
  intro s
  refine ⟨fun b => ⟨b.plain.key_eq, b.deadline_eq,
    fun mid t rest key span _ => b.timesOut_iff mid t key span, fun key span ho => ?_, ?_⟩,
    fun order hall e he => lt_deadline_of_mem_wakes hall he, fun e he => ?_⟩
  · have hstate : s = b.state b.after := b.state_after.symm
    rw [hstate] at ho
    exact b.exists_timesOut ho
  · rw [← b.pending_iff, b.state_after]
  · obtain ⟨order, hall, hexpire⟩ := exists_expire_eq turns
    rw [hexpire] at he
    exact lt_deadline_of_mem_wakes hall he

/-- A timer that has its turn a nanosecond too early waits for the next one. -/
example :
    let s : Clocked Nat :=
      run {} [.subscribe "c1" (.ms 2), .lapse 1999999, .wake 1, .lapse 1]
    s.table.isPending "c1" = true ∧ (s.turn (.wake 1)).table.isPending "c1" = false := by
  decide

end Clocked

end DeviceTwin.Correlator
