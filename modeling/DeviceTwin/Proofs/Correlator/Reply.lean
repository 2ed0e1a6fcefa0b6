/-
What an operation does to the reply of one subscription.

On a sound correlator every operation acts on each held reply by itself:
the reply with a number goes through a publication, a timer or a closing
as if it were the only one, and what the table holds for others does not
enter. A reply is changed at most by getting an outcome that it does not
have yet (`Reply.concluded`), and it is gone only when it was let go of.

Everything that is said later about runs is drawn from these laws and
not from the operations: an outcome never changes because `concluded`
keeps it, and a message has one receiver because one reply without an
outcome has its key. `Settles` is what all operations but two have in
common: they end subscriptions and bring nothing new.
-/
import DeviceTwin.Proofs.Correlator.Sound

namespace DeviceTwin.Correlator

variable {μ : Type} {c : Correlator μ}

-- ============================================================ one outcome

/-- The reply with an outcome: its own if it has one. -/
def Reply.concluded (o : Outcome μ) (r : Reply μ) : Reply μ :=
  { r with outcome := r.outcome.or (some o) }

/-- A reply with an outcome keeps it. -/
theorem Reply.concluded_of_outcome {r : Reply μ} {o' : Outcome μ}
    (ho : r.outcome = some o') (o : Outcome μ) : r.concluded o = r := by
  cases r
  simp_all [concluded]

/-- A reply without an outcome gets one. -/
theorem Reply.concluded_of_open {r : Reply μ} (ho : r.outcome = none)
    (o : Outcome μ) : r.concluded o = { r with outcome := some o } := by
  simp [concluded, ho]

namespace Tied

/-- Ending the subscription of an entry concludes the replies of any
condition that picks its reply out of those without an outcome. -/
theorem reply?_resolve (h : Tied c) {e : Entry} (he : e ∈ c.entries)
    (o : Outcome μ) {p : Reply μ → Prop} [DecidablePred p]
    (hp : ∀ r ∈ c.replies, r.outcome = none → (p r ↔ r.entry = e))
    (n : Nat) :
    (c.resolve e o).reply? n
      = (c.reply? n).map fun r => if p r then r.concluded o else r := by
  have hmap : (c.resolve e o).reply? n
      = (c.reply? n).map (Reply.settled e.number o) :=
    Lookup.find?_map (fun r => r.settled_number e.number o) n
  rw [hmap]
  refine Option.map_congr fun r hr => ?_
  obtain ⟨hmem, -⟩ := h.reply?_eq_some.mp hr
  unfold Reply.settled
  cases ho : r.outcome with
  | none =>
      have hin : r.entry ∈ c.entries :=
        h.mem_entries.mpr ⟨r, hmem, ho, rfl⟩
      have hiff : r.number = e.number ↔ p r := by
        rw [hp r hmem ho]
        exact ⟨h.eq_of_number hin he, fun heq => heq ▸ rfl⟩
      simp only [hiff, Reply.concluded_of_open ho]
  | some o' =>
      -- the entry's own reply has no outcome, so this is another one
      have hne : r.number ≠ e.number := by
        intro hn
        obtain ⟨s, hs, hnone, rfl⟩ := h.mem_entries.mp he
        rw [h.reply_eq hmem hs hn, hnone] at ho
        cases ho
      rw [if_neg hne, Reply.concluded_of_outcome ho, ite_self]

/-- Where every reply of a condition has an outcome, concluding them
changes nothing. -/
theorem reply?_idle (h : Tied c) (o : Outcome μ) {p : Reply μ → Prop}
    [DecidablePred p]
    (hp : ∀ r ∈ c.replies, r.outcome = none → ¬ p r) (n : Nat) :
    c.reply? n
      = (c.reply? n).map fun r => if p r then r.concluded o else r := by
  cases hr : c.reply? n with
  | none => rfl
  | some r =>
      obtain ⟨hmem, -⟩ := h.reply?_eq_some.mp hr
      rw [Option.map_some]
      split
      case isFalse => rfl
      case isTrue hpr =>
        cases ho : r.outcome with
        | none => exact absurd hpr (hp r hmem ho)
        | some o' => rw [Reply.concluded_of_outcome ho]

-- ========================================================= each operation

/-- A message goes to the reply that has its key and no outcome. -/
theorem reply?_publish (h : Tied c) (key : Option String) (m : μ)
    (n : Nat) :
    (c.publish key m).1.reply? n
      = (c.reply? n).map fun r =>
          if key = some r.key then r.concluded (.ok m) else r := by
  unfold publish
  split
  next e hf =>
    obtain ⟨k, rfl, hk⟩ := Option.bind_eq_some_iff.mp hf
    obtain ⟨he, rfl⟩ := h.pending?_eq_some.mp hk
    refine h.reply?_resolve he _ (fun r hr ho => ?_) n
    have hin : r.entry ∈ c.entries := h.mem_entries.mpr ⟨r, hr, ho, rfl⟩
    constructor
    · intro hkey
      exact h.eq_of_key hin he (Option.some.inj hkey).symm
    · rintro rfl
      rfl
  next hf =>
    refine h.reply?_idle _ (fun r hr ho => ?_) n
    rintro rfl
    have hin : r.entry ∈ c.entries := h.mem_entries.mpr ⟨r, hr, ho, rfl⟩
    have := h.pending?_eq_some.mpr ⟨hin, rfl⟩
    rw [Option.bind_some] at hf
    rw [show r.key = r.entry.key from rfl, this] at hf
    cases hf

/-- A subscription that is taken out by its number and its key concludes
the reply with the number. -/
theorem reply?_conclude_held (h : Tied c) {key : String} {n : Nat}
    (hkey : ∀ r ∈ c.replies, r.number = n → r.key = key)
    (o : Outcome μ) (k : Nat) :
    (if c.holds key n then c.resolve ⟨n, key⟩ o else c).reply? k
      = (c.reply? k).map fun r =>
          if r.number = n then r.concluded o else r := by
  split
  case isTrue hh =>
    have he := h.holds_iff.mp hh
    refine h.reply?_resolve he _ (fun r hr _ => ?_) k
    constructor
    · rintro rfl
      rw [← hkey r hr rfl]
      rfl
    · intro heq
      exact congrArg Entry.number heq
  case isFalse hh =>
    refine h.reply?_idle _ (fun r hr ho => ?_) k
    rintro rfl
    refine hh (h.holds_iff.mpr ?_)
    rw [← hkey r hr rfl]
    exact h.mem_entries.mpr ⟨r, hr, ho, rfl⟩

/-- Giving a subscription up concludes its own reply. -/
theorem reply?_unsubscribe (h : Tied c) {key : String} {n : Nat}
    (hkey : ∀ r ∈ c.replies, r.number = n → r.key = key) (k : Nat) :
    (c.unsubscribe key n).1.reply? k
      = (c.reply? k).map fun r =>
          if r.number = n then r.concluded (.error .closed) else r := by
  rw [← h.reply?_conclude_held hkey]
  unfold unsubscribe
  split <;> rfl

/-- A timer concludes the reply of the subscription that it is armed
for. -/
theorem reply?_fire (h : Tied c) {t : Timer} (ht : t ∈ c.timers)
    (k : Nat) :
    (c.fire t).reply? k
      = (c.reply? k).map fun r =>
          if r.number = t.number
            then r.concluded (.error (.timeout t.key t.span)) else r := by
  unfold fire
  refine h.reply?_conclude_held (fun r hr hn => ?_) _ k
  obtain ⟨s, hs, -, hs'⟩ := h.mem_entries.mp (h.timer_mem ht)
  obtain ⟨hnum, hkey⟩ := Entry.mk.inj hs'
  rw [h.reply_eq hr hs (hn.trans hnum.symm)]
  exact hkey

/-- A reply that is let go of is gone, and no other. -/
theorem reply?_release (h : Tied c) {key : String} {n : Nat}
    (hkey : ∀ r ∈ c.replies, r.number = n → r.key = key) (k : Nat) :
    (c.release key n).reply? k = if k = n then none else c.reply? k := by
  rw [h.release_eq hkey]
  exact Lookup.find?_filter_ne n k

/-- A registration adds its own reply, without an outcome. -/
theorem reply?_register (h : Tied c) (now : Nat) (key : String)
    (span : Span) (k : Nat) :
    (c.register now key span).reply? k
      = if k = c.next then some (c.newReply now key span)
        else c.reply? k := by
  show (c.replies ++ [c.newReply now key span]).find? _ = _
  rw [List.find?_append]
  split
  case isTrue hk =>
    have hnone : c.replies.find? (·.number == k) = none :=
      Lookup.find?_eq_none_iff.mpr fun r hr =>
        hk ▸ Nat.ne_of_lt (h.fresh r hr)
    rw [hnone]
    simp [newReply, hk]
  case isFalse hk =>
    have hne : ¬ c.next = k := fun heq => hk heq.symm
    simp [newReply, hne, reply?]

/-- Ending the subscriptions of the table one after the other concludes
every reply. -/
theorem reply?_resolve_all (o : Outcome μ) (k : Nat) :
    ∀ {l : List Entry} {c : Correlator μ}, Tied c → c.entries = l →
      (l.foldl (fun c e => c.resolve e o) c).reply? k
        = (c.reply? k).map (·.concluded o) := by
  intro l
  induction l with
  | nil =>
      intro c h hl
      have hidle := h.reply?_idle (p := fun _ => True) o
        (fun r hr ho _ => by
          have := h.mem_entries.mpr ⟨r, hr, ho, rfl⟩
          rw [hl] at this
          cases this) k
      simpa using hidle
  | cons e l ih =>
      intro c h hl
      have he : e ∈ c.entries := by simp [hl]
      have hhead := h.reply?_resolve (p := (·.number = e.number)) he o
        (fun r hr ho =>
          ⟨h.eq_of_number (h.mem_entries.mpr ⟨r, hr, ho, rfl⟩) he,
            congrArg Entry.number⟩) k
      rw [List.foldl_cons, ih (h.resolve he o) (h.entries_resolve hl o),
        hhead, Option.map_map]
      congr 1
      funext r
      simp only [Function.comp_apply]
      split <;> simp [Reply.concluded]

/-- Closing concludes every reply. -/
theorem reply?_close (h : Tied c) (k : Nat) :
    c.close.1.reply? k
      = (c.reply? k).map (·.concluded (.error .closed)) :=
  h.mark_closed.reply?_resolve_all (c := { c with closed := true }) _ k rfl

end Tied

/-- Whoever lets go of a reply need not give its subscription up first. -/
theorem release_unsubscribe (c : Correlator μ) (key : String) (n : Nat) :
    (c.unsubscribe key n).1.release key n = c.release key n := by
  unfold unsubscribe
  cases hh : c.holds key n with
  | false => simp
  | true =>
      have hout : (c.resolve ⟨n, key⟩ (.error .closed)).holds key n
          = false := by
        have hnone : (c.entries.filter (·.key != key)).find? (·.key == key)
            = none := by simp
        simp only [holds, pending?, resolve, settle, withdraw, hnone,
          Option.any_none]
      have hreplies :
          (c.resolve ⟨n, key⟩ (.error .closed)).replies.filter
              (·.number != n)
            = c.replies.filter (·.number != n) := by
        show (c.replies.map (Reply.settled n _)).filter _ = _
        rw [Lookup.filter_map_ne fun r => r.settled_number n _]
        refine (List.map_congr_left fun r hr => ?_).trans (List.map_id _)
        have hne : r.number ≠ n := by simpa using (List.mem_filter.mp hr).2
        exact if_neg hne
      simp only [if_true, release, hout, hh, Bool.false_eq_true, if_false,
        hreplies]
      rfl

-- ======================================================= what stays the same

/-- Subscriptions may have ended, and nothing else: the same replies are
held, no entry and no timer is new, and no number was given out. -/
structure Settles (c c' : Correlator μ) : Prop where
  entries : c'.entries ⊆ c.entries
  timers : c'.timers ⊆ c.timers
  held : c'.replies.map Reply.entry = c.replies.map Reply.entry
  next : c'.next = c.next

namespace Settles

theorem refl (c : Correlator μ) : Settles c c :=
  ⟨List.Subset.refl _, List.Subset.refl _, rfl, rfl⟩

theorem trans {c₁ c₂ c₃ : Correlator μ} (h : Settles c₁ c₂)
    (h' : Settles c₂ c₃) : Settles c₁ c₃ :=
  ⟨List.Subset.trans h'.entries h.entries,
    List.Subset.trans h'.timers h.timers,
    h'.held.trans h.held, h'.next.trans h.next⟩

/-- The end of a subscription settles it. -/
theorem resolve (c : Correlator μ) (e : Entry) (o : Outcome μ) :
    Settles c (c.resolve e o) where
  entries := List.filter_subset_self _
  timers := List.filter_subset_self _
  held := by
    have hentry : Reply.entry ∘ Reply.settled e.number o
        = (Reply.entry : Reply μ → Entry) :=
      funext fun r => r.settled_entry e.number o
    show (c.replies.map (Reply.settled e.number o)).map Reply.entry = _
    rw [List.map_map, hentry]
  next := rfl

/-- A message settles at most one. -/
theorem publish (c : Correlator μ) (key : Option String) (m : μ) :
    Settles c (c.publish key m).1 := by
  unfold Correlator.publish
  split
  · exact .resolve ..
  · exact .refl c

theorem unsubscribe (c : Correlator μ) (key : String) (n : Nat) :
    Settles c (c.unsubscribe key n).1 := by
  unfold Correlator.unsubscribe
  split
  · exact .resolve ..
  · exact .refl c

theorem fire (c : Correlator μ) (t : Timer) : Settles c (c.fire t) := by
  unfold Correlator.fire
  split
  · exact .resolve ..
  · exact .refl c

theorem resolve_all (o : Outcome μ) (l : List Entry) :
    ∀ c : Correlator μ,
      Settles c (l.foldl (fun c e => c.resolve e o) c) := by
  induction l with
  | nil => exact refl
  | cons e l ih =>
      exact fun c => (resolve c e o).trans (ih (c.resolve e o))

theorem close (c : Correlator μ) : Settles c c.close.1 := by
  obtain ⟨he, ht, hr, hn⟩ := resolve_all (.error .closed) c.entries
    { c with closed := true }
  exact ⟨he, ht, hr, hn⟩

end Settles

end DeviceTwin.Correlator
