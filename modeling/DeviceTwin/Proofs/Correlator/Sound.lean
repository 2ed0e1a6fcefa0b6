/-
What ties the four parts of a correlator together.

Entries, timers and replies are kept apart, and every operation changes
some of them. `Tied` says that they agree: the table holds exactly the
subscriptions whose replies are held and have no outcome, one timer is
armed for each of them and no other, no two replies have one number, no
two entries one key, and every number is below the counter. `Sound` adds
that a closed table is empty.

# How the operations keep it

Only three small steps touch more than one part.

- `resolve` takes an entry out of the table together with its timer and
  gives its reply an outcome. The table removes by key and the timer by
  number; on tied parts both are the removal of one number
  (`Tied.filter_key_eq`), which is what makes the three lists move in
  step.
- `release` removes one number from all three lists, whether or not its
  subscription was still pending (`Tied.release_eq`).
- A subscription that is admitted appends to all three lists under a
  number that nobody has.
-/
import DeviceTwin.Client.Correlator
import DeviceTwin.Proofs.Lookup

namespace DeviceTwin.Correlator

variable {μ : Type} {c : Correlator μ}

-- ============================================================ the invariant

/-- The subscription that a timer is armed for. -/
def Timer.entry (t : Timer) : Entry := ⟨t.number, t.key⟩

/-- The subscription that a reply belongs to. -/
def Reply.entry (r : Reply μ) : Entry := ⟨r.number, r.key⟩

@[simp] theorem Reply.settled_number (n : Nat) (o : Outcome μ)
    (r : Reply μ) : (r.settled n o).number = r.number := by
  unfold settled
  split <;> rfl

@[simp] theorem Reply.settled_key (n : Nat) (o : Outcome μ)
    (r : Reply μ) : (r.settled n o).key = r.key := by
  unfold settled
  split <;> rfl

@[simp] theorem Reply.settled_entry (n : Nat) (o : Outcome μ)
    (r : Reply μ) : (r.settled n o).entry = r.entry := by
  simp [entry]

/-- A settled reply has no outcome if it had none and is another one. -/
theorem Reply.settled_open (n : Nat) (o : Outcome μ) (r : Reply μ) :
    (r.settled n o).outcome.isNone
      = (r.outcome.isNone && (r.number != n)) := by
  unfold settled
  split
  case isTrue h => simp [h]
  case isFalse h => simp [h]

/-- Entries, timers and replies agree. -/
structure Tied (c : Correlator μ) : Prop where
  entries_eq : c.entries
    = (c.replies.filter (·.outcome.isNone)).map Reply.entry
  timers_eq : c.timers.map Timer.entry = c.entries
  numbers : (c.replies.map (·.number)).Nodup
  keys : (c.entries.map (·.key)).Nodup
  fresh : ∀ r ∈ c.replies, r.number < c.next

/-- Entries, timers and replies agree, and a closed table is empty. -/
structure Sound (c : Correlator μ) : Prop extends Tied c where
  drained : c.closed = true → c.entries = []

/-- A correlator starts sound. -/
theorem sound_empty : Sound ({} : Correlator μ) where
  entries_eq := rfl
  timers_eq := rfl
  numbers := List.nodup_nil
  keys := List.nodup_nil
  fresh := by simp
  drained _ := rfl

namespace Tied

/-- An entry is the subscription of a reply that is held and has no
outcome. -/
theorem mem_entries (h : Tied c) {e : Entry} :
    e ∈ c.entries ↔ ∃ r ∈ c.replies, r.outcome = none ∧ r.entry = e := by
  rw [h.entries_eq, List.mem_map]
  simp only [List.mem_filter, Option.isNone_iff_eq_none, and_assoc]

/-- No two entries have one number. -/
theorem entry_numbers (h : Tied c) : (c.entries.map (·.number)).Nodup := by
  have hsub : (c.entries.map (·.number)).Sublist
      (c.replies.map (·.number)) := by
    rw [h.entries_eq, List.map_map]
    exact List.filter_sublist.map _
  exact hsub.nodup h.numbers

/-- An entry is known by its number. -/
theorem eq_of_number (h : Tied c) {e f : Entry} (he : e ∈ c.entries)
    (hf : f ∈ c.entries) (hn : e.number = f.number) : e = f :=
  List.inj_on_of_nodup_map h.entry_numbers he hf hn

/-- An entry is known by its key. -/
theorem eq_of_key (h : Tied c) {e f : Entry} (he : e ∈ c.entries)
    (hf : f ∈ c.entries) (hk : e.key = f.key) : e = f :=
  List.inj_on_of_nodup_map h.keys he hf hk

/-- A reply is known by its number. -/
theorem reply_eq (h : Tied c) {r s : Reply μ} (hr : r ∈ c.replies)
    (hs : s ∈ c.replies) (hn : r.number = s.number) : r = s :=
  List.inj_on_of_nodup_map h.numbers hr hs hn

-- ================================================================== looking

/-- Looking under a key finds the entry with the key. -/
theorem pending?_eq_some (h : Tied c) {key : String} {e : Entry} :
    c.pending? key = some e ↔ e ∈ c.entries ∧ e.key = key :=
  Lookup.find?_eq_some_iff h.keys

/-- Looking under a number finds the reply with the number. -/
theorem reply?_eq_some (h : Tied c) {n : Nat} {r : Reply μ} :
    c.reply? n = some r ↔ r ∈ c.replies ∧ r.number = n :=
  Lookup.find?_eq_some_iff h.numbers

/-- No two timers have one number. -/
theorem timer_numbers (h : Tied c) : (c.timers.map (·.number)).Nodup := by
  have hn := h.entry_numbers
  rw [← h.timers_eq, List.map_map] at hn
  exact hn

/-- And it finds the timer that is armed for the number. -/
theorem timer?_eq_some (h : Tied c) {n : Nat} {t : Timer} :
    c.timer? n = some t ↔ t ∈ c.timers ∧ t.number = n :=
  Lookup.find?_eq_some_iff h.timer_numbers

/-- A subscription is held under its key when it is in the table. -/
theorem holds_iff (h : Tied c) {key : String} {n : Nat} :
    c.holds key n = true ↔ (⟨n, key⟩ : Entry) ∈ c.entries := by
  unfold holds
  constructor
  · intro hh
    cases hf : c.pending? key with
    | none => simp [hf] at hh
    | some e =>
        obtain ⟨hmem, rfl⟩ := h.pending?_eq_some.mp hf
        have hn : e.number = n := by simpa [hf] using hh
        rw [← hn]
        exact hmem
  · intro hmem
    rw [h.pending?_eq_some.mpr ⟨hmem, rfl⟩]
    simp

/-- A subscription is pending exactly when its reply is held and has no
outcome. -/
theorem pending_iff (h : Tied c) {n : Nat} {key : String} :
    (⟨n, key⟩ : Entry) ∈ c.entries
      ↔ ∃ r, c.reply? n = some r ∧ r.key = key ∧ r.outcome = none := by
  rw [h.mem_entries]
  constructor
  · rintro ⟨r, hr, ho, he⟩
    obtain ⟨hn, hk⟩ := Entry.mk.inj he
    exact ⟨r, h.reply?_eq_some.mpr ⟨hr, hn⟩, hk, ho⟩
  · rintro ⟨r, hf, rfl, ho⟩
    obtain ⟨hr, rfl⟩ := h.reply?_eq_some.mp hf
    exact ⟨r, hr, ho, rfl⟩

/-- A timer is armed only for what is in the table. -/
theorem timer_mem (h : Tied c) {t : Timer} (ht : t ∈ c.timers) :
    t.entry ∈ c.entries := by
  rw [← h.timers_eq]
  exact List.mem_map_of_mem ht

/-- A timer is armed for every entry of the table. -/
theorem exists_timer (h : Tied c) {e : Entry} (he : e ∈ c.entries) :
    ∃ t, c.timer? e.number = some t ∧ t.entry = e := by
  rw [← h.timers_eq, List.mem_map] at he
  obtain ⟨t, ht, rfl⟩ := he
  exact ⟨t, h.timer?_eq_some.mpr ⟨ht, rfl⟩, rfl⟩

-- ============================================================ the small steps

/-- Taking an entry's key out of the table takes its number out. -/
theorem filter_key_eq (h : Tied c) {e : Entry} (he : e ∈ c.entries) :
    c.entries.filter (·.key != e.key)
      = c.entries.filter (·.number != e.number) := by
  refine List.filter_congr fun f hf => ?_
  have hiff : f.key = e.key ↔ f.number = e.number :=
    ⟨fun hk => by rw [h.eq_of_key hf he hk],
      fun hn => by rw [h.eq_of_number hf he hn]⟩
  simp only [bne, beq_eq_decide, hiff]

/-- Timers without a number are armed for the entries without it. -/
theorem timers_filter (h : Tied c) (n : Nat) :
    (c.timers.filter (·.number != n)).map Timer.entry
      = c.entries.filter (·.number != n) := by
  rw [← h.timers_eq, List.filter_map]
  rfl

/-- Replies without a number belong to the entries without it. -/
theorem replies_filter (h : Tied c) (n : Nat) :
    ((c.replies.filter (·.number != n)).filter (·.outcome.isNone)).map
        Reply.entry
      = c.entries.filter (·.number != n) := by
  rw [h.entries_eq, List.filter_map, List.filter_filter,
    List.filter_filter]
  congr 2
  funext r
  exact Bool.and_comm ..

/-- Ending a subscription that is pending keeps the parts tied. -/
theorem resolve (h : Tied c) {e : Entry} (he : e ∈ c.entries)
    (o : Outcome μ) : Tied (c.resolve e o) where
  entries_eq := by
    have hopen : (fun r : Reply μ => r.outcome.isNone)
          ∘ Reply.settled e.number o
        = fun r => r.outcome.isNone && (r.number != e.number) :=
      funext fun r => r.settled_open e.number o
    have hentry : Reply.entry ∘ Reply.settled e.number o
        = (Reply.entry : Reply μ → Entry) :=
      funext fun r => r.settled_entry e.number o
    show c.entries.filter (·.key != e.key)
      = ((c.replies.map (Reply.settled e.number o)).filter
          (·.outcome.isNone)).map Reply.entry
    rw [h.filter_key_eq he, ← h.replies_filter, List.filter_map,
      List.map_map, List.filter_filter, hopen, hentry]
  timers_eq := by
    show (c.timers.filter (·.number != e.number)).map Timer.entry
      = c.entries.filter (·.key != e.key)
    rw [h.filter_key_eq he, h.timers_filter]
  numbers := by
    have hnumber : (fun r : Reply μ => r.number)
        ∘ Reply.settled e.number o = fun r => r.number :=
      funext fun r => r.settled_number e.number o
    show ((c.replies.map (Reply.settled e.number o)).map
      (·.number)).Nodup
    rw [List.map_map, hnumber]
    exact h.numbers
  keys := (List.filter_sublist.map _).nodup h.keys
  fresh := by
    intro r hr
    obtain ⟨s, hs, rfl⟩ := List.mem_map.mp hr
    rw [Reply.settled_number]
    exact h.fresh s hs

/-- Letting go of a reply takes its number out of all three lists. -/
theorem release_eq (h : Tied c) {key : String} {n : Nat}
    (hkey : ∀ r ∈ c.replies, r.number = n → r.key = key) :
    c.release key n
      = { c with
          entries := c.entries.filter (·.number != n)
          timers := c.timers.filter (·.number != n)
          replies := c.replies.filter (·.number != n) } := by
  cases hh : c.holds key n with
  | true =>
      have hfilter := h.filter_key_eq (h.holds_iff.mp hh)
      unfold release withdraw
      simp only [hh, if_true, hfilter]
  | false =>
      -- the number is not in the table, so there is nothing to take out
      have hne : ∀ e ∈ c.entries, e.number ≠ n := by
        intro e he hn
        obtain ⟨r, hr, -, rfl⟩ := h.mem_entries.mp he
        have hk : r.key = key := hkey r hr hn
        have hheld : c.holds key n = true := by
          rw [h.holds_iff, ← hk, ← hn]
          exact he
        rw [hh] at hheld
        cases hheld
      have htimers : ∀ t ∈ c.timers, t.number ≠ n :=
        fun t ht => hne _ (h.timer_mem ht)
      unfold release
      simp only [hh, Bool.false_eq_true, if_false,
        Lookup.filter_ne_eq_self hne, Lookup.filter_ne_eq_self htimers]

/-- Letting go of a reply keeps the parts tied. -/
theorem release (h : Tied c) {key : String} {n : Nat}
    (hkey : ∀ r ∈ c.replies, r.number = n → r.key = key) :
    Tied (c.release key n) := by
  rw [h.release_eq hkey]
  exact
    { entries_eq := (h.replies_filter n).symm
      timers_eq := h.timers_filter n
      numbers := (List.filter_sublist.map _).nodup h.numbers
      keys := (List.filter_sublist.map _).nodup h.keys
      fresh := fun r hr => h.fresh r (List.mem_of_mem_filter hr) }

/-- A subscription that is admitted keeps the parts tied. -/
theorem register (h : Tied c) (now : Nat) {key : String} (span : Span)
    (hfree : c.isPending key = false) : Tied (c.register now key span) where
  entries_eq := by
    show c.entries ++ [(c.newReply now key span).entry]
      = ((c.replies ++ [c.newReply now key span]).filter
          (·.outcome.isNone)).map Reply.entry
    rw [List.filter_append, List.map_append, ← h.entries_eq]
    rfl
  timers_eq := by
    show (c.timers ++ [_]).map Timer.entry = c.entries ++ [_]
    rw [List.map_append, h.timers_eq]
    rfl
  numbers := Lookup.nodup_concat (x := c.newReply now key span) h.numbers
    fun r hr => Nat.ne_of_lt (h.fresh r hr)
  keys := by
    refine Lookup.nodup_concat (x := Entry.mk c.next key) h.keys ?_
    unfold isPending at hfree
    rw [Option.isSome_eq_false_iff, Option.isNone_iff_eq_none] at hfree
    exact Lookup.find?_eq_none_iff.mp hfree
  fresh := by
    refine Lookup.forall_mem_concat (fun r hr => ?_) (Nat.lt_succ_self _)
    exact Nat.lt_succ_of_lt (h.fresh r hr)

/-- That the table is closed ties nothing. -/
theorem mark_closed (h : Tied c) : Tied { c with closed := true } :=
  ⟨h.entries_eq, h.timers_eq, h.numbers, h.keys, h.fresh⟩

/-- Ending the first subscription of the table leaves the others. -/
theorem entries_resolve (h : Tied c) {e : Entry} {l : List Entry}
    (hl : c.entries = e :: l) (o : Outcome μ) :
    (c.resolve e o).entries = l := by
  have hkeys := h.keys
  rw [hl, List.map_cons, List.nodup_cons] at hkeys
  show c.entries.filter (·.key != e.key) = l
  rw [hl, List.filter_cons_of_neg (by simp)]
  refine Lookup.filter_ne_eq_self fun f hf hk => hkeys.1 ?_
  rw [← hk]
  exact List.mem_map_of_mem hf

/-- Ending the subscriptions of the table one after the other keeps the
parts tied and leaves the table empty: what was ended is gone, so the
rest of the list is always what the table still holds. -/
theorem resolve_all (o : Outcome μ) :
    ∀ {l : List Entry} {c : Correlator μ}, Tied c → c.entries = l →
      Tied (l.foldl (fun c e => c.resolve e o) c)
        ∧ (l.foldl (fun c e => c.resolve e o) c).entries = [] := by
  intro l
  induction l with
  | nil =>
      intro c h hl
      exact ⟨h, hl⟩
  | cons e l ih =>
      intro c h hl
      have he : e ∈ c.entries := by simp [hl]
      exact ih (h.resolve he o) (h.entries_resolve hl o)

end Tied

-- ============================================================ the operations

/-- What a subscription can come to: the table is closed, the key is
taken, or it is admitted. -/
theorem subscribe_cases (c : Correlator μ) (now : Nat) (key : String)
    (span : Span) :
    (c.closed = true ∧ c.subscribe now key span = (c, .error .closed))
    ∨ (c.isPending key = true
        ∧ c.subscribe now key span
          = ({ c with next := c.next + 1 },
              .error (.alreadyPending key)))
    ∨ (c.closed = false ∧ c.isPending key = false
        ∧ c.subscribe now key span
          = (c.register now key span, .ok (c.newReply now key span))) := by
  unfold subscribe
  cases hclosed : c.closed with
  | true => exact .inl ⟨rfl, rfl⟩
  | false =>
      cases hpending : c.isPending key with
      | true => exact .inr (.inl ⟨rfl, rfl⟩)
      | false => exact .inr (.inr ⟨rfl, rfl, rfl⟩)

namespace Sound

/-- Numbers may be passed over. -/
theorem skip (h : Sound c) {next : Nat} (hnext : c.next ≤ next) :
    Sound { c with next } where
  entries_eq := h.entries_eq
  timers_eq := h.timers_eq
  numbers := h.numbers
  keys := h.keys
  fresh r hr := Nat.lt_of_lt_of_le (h.fresh r hr) hnext
  drained := h.drained

/-- A subscription may be admitted under a key that is free. -/
theorem register (h : Sound c) (now : Nat) {key : String} (span : Span)
    (hopen : c.closed = false) (hfree : c.isPending key = false) :
    Sound (c.register now key span) := by
  refine ⟨h.toTied.register now span hfree, fun hclosed => ?_⟩
  have : c.closed = true := hclosed
  rw [hopen] at this
  cases this

/-- A subscription keeps the correlator sound, whether or not it is admitted. -/
theorem subscribe (h : Sound c) (now : Nat) (key : String)
    (span : Span) : Sound (c.subscribe now key span).1 := by
  obtain ⟨-, hs⟩ | ⟨-, hs⟩ | ⟨hopen, hfree, hs⟩ :=
    c.subscribe_cases now key span
  · rw [hs]
    exact h
  · rw [hs]
    exact h.skip (Nat.le_succ _)
  · rw [hs]
    exact h.register now span hopen hfree

/-- The end of a pending subscription keeps it sound. -/
theorem resolve (h : Sound c) {e : Entry} (he : e ∈ c.entries)
    (o : Outcome μ) : Sound (c.resolve e o) := by
  refine ⟨h.toTied.resolve he o, fun hclosed => ?_⟩
  rw [h.drained hclosed] at he
  cases he

/-- So does a message, whoever it is for. -/
theorem publish (h : Sound c) (key : Option String) (m : μ) :
    Sound (c.publish key m).1 := by
  unfold Correlator.publish
  split
  next e hf =>
    obtain ⟨k, -, hk⟩ := Option.bind_eq_some_iff.mp hf
    exact h.resolve (h.pending?_eq_some.mp hk).1 _
  next => exact h

/-- So does giving a subscription up, in time or not. -/
theorem unsubscribe (h : Sound c) (key : String) (n : Nat) :
    Sound (c.unsubscribe key n).1 := by
  unfold Correlator.unsubscribe
  split
  case isTrue hh => exact h.resolve (h.holds_iff.mp hh) _
  case isFalse => exact h

/-- So does a timer that fires, even too late. -/
theorem fire (h : Sound c) (t : Timer) : Sound (c.fire t) := by
  unfold Correlator.fire
  split
  case isTrue hh => exact h.resolve (h.holds_iff.mp hh) _
  case isFalse => exact h

/-- So does letting go of a reply. -/
theorem release (h : Sound c) {key : String} {n : Nat}
    (hkey : ∀ r ∈ c.replies, r.number = n → r.key = key) :
    Sound (c.release key n) := by
  refine ⟨h.toTied.release hkey, fun hclosed => ?_⟩
  rw [h.release_eq hkey] at hclosed ⊢
  show c.entries.filter _ = []
  rw [h.drained hclosed, List.filter_nil]

/-- Once closed, a correlator is sound and has nothing pending. -/
theorem close (h : Sound c) : Sound c.close.1 := by
  obtain ⟨hall, hempty⟩ :=
    h.toTied.mark_closed.resolve_all (.error .closed) rfl
  exact ⟨hall, fun _ => hempty⟩

end Sound

end DeviceTwin.Correlator
