/-
Operations under different keys.

A publication, a reply given up or let go of and a timer each concern one key
at most. Two of them that do not concern the same key do not notice each
other: in either order they leave the same table, timers, replies and counter,
and each comes back with the answer that it has alone
(`independent_operations_commute`). So the order of such neighbours in a run
does not matter, however often they change places (`Rearranged`).

# What an operation takes

Where entries, timers and replies are tied, all four kinds of operation come
down to one: a number is struck out of the table and of the timers, and its
reply gets an outcome or is gone (`strike`). Which number that is, `taken?`
says by looking at the correlator (`Sound.step_eq`), and two strikes of two
numbers commute list by list (`strike_comm`). What is left to show is that
looking is not disturbed: a number that was struck under another key is none
of those that an operation looks for (`Sound.unseen_strike`).
-/
import DeviceTwin.Proofs.Correlator.Run
import Mathlib.Data.List.Find
import Mathlib.Logic.Relation

namespace DeviceTwin.Correlator

variable {μ : Type} {c : Correlator μ} {a b : Op μ} {n k : Nat}

-- ================================================================ one number

/-- Strikes a number out of the table and of the timers. Its reply gets the
outcome, or is gone if there is none. -/
def strike (c : Correlator μ) (n : Nat) (o : Option (Outcome μ)) : Correlator μ :=
  { c with
    entries := c.entries.filter (·.number != n)
    timers := c.timers.filter (·.number != n)
    replies := match o with
      | some o => c.replies.map (Reply.settled n o)
      | none => c.replies.filter (·.number != n) }

/-- Settling one number and then another is settling both. -/
theorem settled_comm (hne : n ≠ k) (o p : Outcome μ) (l : List (Reply μ)) :
    (l.map (Reply.settled n o)).map (Reply.settled k p)
      = (l.map (Reply.settled k p)).map (Reply.settled n o) := by
  rw [List.map_map, List.map_map]
  refine List.map_congr_left fun r _ => ?_
  simp only [Function.comp_apply, Reply.settled]
  by_cases hn : r.number = n
  · have hk : r.number ≠ k := fun hk => hne (hn.symm.trans hk)
    simp [hn, hne]
  · by_cases hk : r.number = k
    · simp [hk, Ne.symm hne]
    · simp [hn, hk]

/-- The order in which two numbers are taken out does not matter. -/
theorem filter_number_comm {α : Type} (number : α → Nat) (n k : Nat) (l : List α) :
    (l.filter (number · != n)).filter (number · != k)
      = (l.filter (number · != k)).filter (number · != n) := by
  rw [List.filter_filter, List.filter_filter]
  congr 1
  funext x
  exact Bool.and_comm ..

/-- Strikes of two numbers commute. -/
theorem strike_comm (hne : n ≠ k) (c : Correlator μ) (o p : Option (Outcome μ)) :
    (c.strike n o).strike k p = (c.strike k p).strike n o := by
  have hreplies : ((c.strike n o).strike k p).replies = ((c.strike k p).strike n o).replies := by
    cases o with
    | none =>
        cases p with
        | none => exact filter_number_comm Reply.number n k c.replies
        | some p => exact (Lookup.filter_map_ne (fun r => r.settled_number k p) n).symm
    | some o =>
        cases p with
        | none => exact Lookup.filter_map_ne (fun r => r.settled_number n o) k
        | some p => exact settled_comm hne o p c.replies
  have hentries := filter_number_comm Entry.number n k c.entries
  have htimers := filter_number_comm Timer.number n k c.timers
  unfold strike at hreplies ⊢
  simp only [Correlator.mk.injEq]
  exact ⟨hentries, htimers, hreplies, trivial, trivial⟩

-- ================================================================ what is taken

/-- The key that an operation concerns in a correlator, if it concerns one: that of
the message, of the reply or of the timer. -/
def Op.key? (c : Correlator μ) : Op μ → Option String
  | publish key _ => key
  | unsubscribe n | release n => (c.reply? n).map (·.key)
  | fire n => (c.timer? n).map (·.key)
  | subscribe .. | close => none

/-- Operations that concern one key at most. -/
def Op.isLocal : Op μ → Bool
  | publish .. | unsubscribe _ | release _ | fire _ => true
  | subscribe .. | close => false

/-- The number that a local operation strikes out, with the outcome for its reply. -/
def Op.taken? (c : Correlator μ) : Op μ → Option (Nat × Option (Outcome μ))
  | publish key m => (key.bind c.pending?).map fun e => (e.number, some (.ok m))
  | unsubscribe n =>
      (c.reply? n).bind fun r =>
        if c.holds r.key n then some (n, some (.error .closed)) else none
  | release n => (c.reply? n).map fun _ => (n, none)
  | fire n => (c.timer? n).map fun t => (n, some (.error (.timeout t.key t.span)))
  | subscribe .. | close => none

/-- What a local operation comes back with, read off the correlator before it. -/
def Op.answer (c : Correlator μ) : Op μ → Answer μ
  | publish key m => .published (if (key.bind c.pending?).isSome then none else some m)
  | unsubscribe n =>
      match c.reply? n with
      | some r => .unsubscribed (c.holds r.key n)
      | none => .silent
  | release _ | fire _ | subscribe .. | close => .silent

/-- Nothing or a strike. -/
def strike? (c : Correlator μ) : Option (Nat × Option (Outcome μ)) → Correlator μ
  | some (n, o) => c.strike n o
  | none => c

/-- Ending a pending subscription strikes its number out. -/
theorem Tied.resolve_eq (h : Tied c) {e : Entry} (he : e ∈ c.entries) (o : Outcome μ) :
    c.resolve e o = c.strike e.number (some o) := by
  unfold Correlator.resolve settle withdraw strike
  simp only [h.filter_key_eq he]

/-- A local operation is a strike of what it takes. -/
theorem Sound.step_eq (h : Sound c) (ha : a.isLocal = true) :
    c.step a = (c.strike? (a.taken? c), a.answer c) := by
  cases a with
  | subscribe | close => cases ha
  | publish key m =>
      show (c.publish key m).map id Answer.published = _
      unfold Correlator.publish
      cases hp : key.bind c.pending? with
      | none => simp [Op.taken?, Op.answer, hp, strike?, Prod.map]
      | some e =>
          obtain ⟨key', -, hkey⟩ := Option.bind_eq_some_iff.mp hp
          have he := (h.pending?_eq_some.mp hkey).1
          simp [Op.taken?, Op.answer, hp, strike?, h.resolve_eq he, Prod.map]
  | unsubscribe n =>
      cases hr : c.reply? n with
      | none => simp [step_unsubscribe_none hr, Op.taken?, Op.answer, hr, strike?]
      | some r =>
          rw [step_unsubscribe hr]
          unfold Correlator.unsubscribe
          cases hh : c.holds r.key n with
          | false => simp [Op.taken?, Op.answer, hr, hh, strike?, Prod.map]
          | true =>
              have hstrike := h.resolve_eq (h.holds_iff.mp hh) (.error .closed)
              simp [Op.taken?, Op.answer, hr, hh, strike?, hstrike, Prod.map]
  | release n =>
      cases hr : c.reply? n with
      | none => simp [step_release_none hr, Op.taken?, Op.answer, hr, strike?]
      | some r =>
          rw [step_release hr, h.release_eq (h.key_eq hr)]
          simp [Op.taken?, Op.answer, hr, strike?, strike]
  | fire n =>
      cases ht : c.timer? n with
      | none => simp [step_fire_none ht, Op.taken?, Op.answer, ht, strike?]
      | some t =>
          obtain ⟨hmem, rfl⟩ := h.timer?_eq_some.mp ht
          -- an armed timer is that of an entry, so its subscription is pending
          have hh := h.holds_iff.mpr (h.timer_mem hmem)
          have hstrike : c.resolve ⟨t.number, t.key⟩ (.error (.timeout t.key t.span))
              = c.strike t.number (some (.error (.timeout t.key t.span))) :=
            h.resolve_eq (h.timer_mem hmem) _
          rw [step_fire ht]
          unfold Correlator.fire
          rw [if_pos hh, hstrike]
          simp [Op.taken?, Op.answer, ht, strike?]

-- ================================================================== what is seen

section Seen

variable {r : Reply μ}

/-- What has the number of a held reply is of its key. -/
theorem Tied.entry_key_eq (h : Tied c) (hr : c.reply? n = some r) {e : Entry}
    (he : e ∈ c.entries) (hn : e.number = n) : e.key = r.key := by
  obtain ⟨s, hs, -, rfl⟩ := h.mem_entries.mp he
  exact h.key_eq hr s hs hn

/-- Who is pending under another key is not struck out. -/
theorem Tied.pending?_strike (h : Tied c) (hr : c.reply? n = some r) {key : String}
    (hkey : key ≠ r.key) (o : Option (Outcome μ)) :
    (c.strike n o).pending? key = c.pending? key := by
  show (c.entries.filter (·.number != n)).find? (·.key == key) = _
  rw [List.find?_filter]
  refine List.find?_congr fun e he => ?_
  by_cases hn : e.number = n
  · have hother : e.key ≠ key := fun hk => hkey (hk.symm.trans (h.entry_key_eq hr he hn))
    simp [hother]
  · simp [hn, beq_eq_decide]

theorem reply?_strike (hne : k ≠ n) (c : Correlator μ) (o : Option (Outcome μ)) :
    (c.strike n o).reply? k = c.reply? k := by
  cases o with
  | none =>
      have hfind : (c.strike n none).reply? k = if k = n then none else c.reply? k :=
        Lookup.find?_filter_ne n k
      rw [hfind, if_neg hne]
  | some o =>
      have hfind : (c.strike n (some o)).reply? k = (c.reply? k).map (Reply.settled n o) :=
        Lookup.find?_map (fun r => r.settled_number n o) k
      rw [hfind]
      cases hr : c.reply? k with
      | none => rfl
      | some r =>
          have hk : r.number = k := by simpa using List.find?_some hr
          have hsame : r.settled n o = r := if_neg fun hn => hne (hk.symm.trans hn)
          rw [Option.map_some, hsame]

theorem timer?_strike (c : Correlator μ) (n k : Nat) (o : Option (Outcome μ)) :
    (c.strike n o).timer? k = if k = n then none else c.timer? k :=
  Lookup.find?_filter_ne n k

/-- An operation that concerns another key looks for nothing that is struck out: it
takes and answers what it does before. -/
theorem Sound.unseen_strike (h : Sound c) (hr : c.reply? n = some r)
    (hkey : b.key? c ≠ some r.key) (o : Option (Outcome μ)) :
    b.taken? (c.strike n o) = b.taken? c ∧ b.answer (c.strike n o) = b.answer c := by
  cases b with
  | subscribe | close => exact ⟨rfl, rfl⟩
  | publish key m =>
      have hsame : key.bind (c.strike n o).pending? = key.bind c.pending? := by
        cases key with
        | none => rfl
        | some key => exact h.pending?_strike hr (fun heq => hkey (congrArg some heq)) o
      simp only [Op.taken?, Op.answer, hsame, and_self]
  | unsubscribe k =>
      have hne : k ≠ n := by
        rintro rfl
        exact hkey (congrArg (Option.map Reply.key) hr)
      cases hk : c.reply? k with
      | none => simp only [Op.taken?, Op.answer, reply?_strike hne, hk, Option.bind_none, and_self]
      | some s =>
          have hother : s.key ≠ r.key := by
            intro heq
            exact hkey (by simp only [Op.key?, hk, Option.map_some, heq])
          have hholds : (c.strike n o).holds s.key k = c.holds s.key k := by
            unfold holds
            rw [h.pending?_strike hr hother]
          simp only [Op.taken?, Op.answer, reply?_strike hne, hk, Option.bind_some, hholds,
            and_self]
  | release k =>
      have hne : k ≠ n := by
        rintro rfl
        exact hkey (congrArg (Option.map Reply.key) hr)
      simp only [Op.taken?, Op.answer, reply?_strike hne, and_self]
  | fire k =>
      refine ⟨?_, rfl⟩
      by_cases hkn : k = n
      · -- no timer is armed for the number, since it would be of the same key
        subst hkn
        cases ht : c.timer? k with
        | none => simp only [Op.taken?, timer?_strike, if_pos, ht]
        | some t =>
            obtain ⟨hmem, hn⟩ := h.timer?_eq_some.mp ht
            have hsame : t.key = r.key := h.entry_key_eq hr (h.timer_mem hmem) hn
            exact absurd (by simp only [Op.key?, ht, Option.map_some, hsame]) hkey
      · simp only [Op.taken?, timer?_strike, if_neg hkn]

end Seen

/-- What is taken belongs to a reply of the key that the operation concerns. -/
theorem Sound.exists_reply (h : Sound c) {o : Option (Outcome μ)}
    (ha : a.taken? c = some (n, o)) :
    ∃ r, c.reply? n = some r ∧ a.key? c = some r.key := by
  have hentry : ∀ e ∈ c.entries, ∃ r, c.reply? e.number = some r ∧ e.key = r.key := by
    intro e he
    obtain ⟨r, hr, hkey, -⟩ := h.pending_iff.mp he
    exact ⟨r, hr, hkey.symm⟩
  cases a with
  | subscribe | close => cases ha
  | publish key m =>
      obtain ⟨e, he, heq⟩ := Option.map_eq_some_iff.mp ha
      obtain ⟨rfl, -⟩ := Prod.mk.inj heq
      obtain ⟨key, rfl, hkey⟩ := Option.bind_eq_some_iff.mp he
      obtain ⟨hmem, rfl⟩ := h.pending?_eq_some.mp hkey
      obtain ⟨r, hr, hk⟩ := hentry e hmem
      exact ⟨r, hr, congrArg some hk⟩
  | unsubscribe k =>
      obtain ⟨r, hr, hheld⟩ := Option.bind_eq_some_iff.mp ha
      split at hheld
      · obtain ⟨rfl, -⟩ := Prod.mk.inj (Option.some.inj hheld)
        exact ⟨r, hr, congrArg (Option.map Reply.key) hr⟩
      · cases hheld
  | release k =>
      obtain ⟨r, hr, heq⟩ := Option.map_eq_some_iff.mp ha
      obtain ⟨rfl, -⟩ := Prod.mk.inj heq
      exact ⟨r, hr, congrArg (Option.map Reply.key) hr⟩
  | fire k =>
      obtain ⟨t, ht, heq⟩ := Option.map_eq_some_iff.mp ha
      obtain ⟨rfl, -⟩ := Prod.mk.inj heq
      obtain ⟨hmem, rfl⟩ := h.timer?_eq_some.mp ht
      obtain ⟨r, hr, hk⟩ := hentry t.entry (h.timer_mem hmem)
      refine ⟨r, hr, ?_⟩
      simp only [Op.key?, ht, Option.map_some]
      exact congrArg some hk

-- ==================================================================== two steps

/-- Two operations that do not concern the same key. -/
structure Apart (c : Correlator μ) (a b : Op μ) : Prop where
  left : a.isLocal = true
  right : b.isLocal = true
  keys : ∀ key, a.key? c = some key → b.key? c ≠ some key

theorem Apart.symm (hab : Apart c a b) : Apart c b a :=
  ⟨hab.right, hab.left, fun key hb ha => hab.keys key ha hb⟩

namespace Sound

/-- An operation takes and answers the same after one that is apart from it. -/
theorem unseen_step (h : Sound c) (hab : Apart c a b) :
    b.taken? (c.step a).1 = b.taken? c ∧ b.answer (c.step a).1 = b.answer c := by
  rw [h.step_eq hab.left]
  cases ha : a.taken? c with
  | none => exact ⟨rfl, rfl⟩
  | some taken =>
      obtain ⟨n, o⟩ := taken
      obtain ⟨r, hr, hkey⟩ := h.exists_reply ha
      exact h.unseen_strike hr (hab.keys _ hkey) o

/-- Its answer is the one that it has alone. -/
theorem answer_step (h : Sound c) (hab : Apart c a b) :
    ((c.step a).1.step b).2 = (c.step b).2 := by
  rw [(h.step a).step_eq hab.right, h.step_eq hab.right]
  exact (h.unseen_step hab).2

/-- Two operations that are apart come to the same in either order. -/
theorem step_comm (h : Sound c) (hab : Apart c a b) :
    ((c.step a).1.step b).1 = ((c.step b).1.step a).1 := by
  rw [(h.step a).step_eq hab.right, (h.step b).step_eq hab.left]
  simp only [(h.unseen_step hab).1, (h.unseen_step hab.symm).1]
  rw [h.step_eq hab.left, h.step_eq hab.right]
  cases ha : a.taken? c with
  | none => rfl
  | some taken =>
      cases hb : b.taken? c with
      | none => rfl
      | some taken' =>
          obtain ⟨n, o⟩ := taken
          obtain ⟨k, p⟩ := taken'
          obtain ⟨r, hr, hra⟩ := h.exists_reply ha
          obtain ⟨s, hs, hsb⟩ := h.exists_reply hb
          -- one number would be one reply, and one key
          have hne : n ≠ k := by
            rintro rfl
            obtain rfl := Option.some.inj (hr.symm.trans hs)
            exact hab.keys _ hra hsb
          exact strike_comm hne c o p

end Sound

-- ========================================================================= runs

/-- The operations of a run, each with its answer. -/
def transcript (c : Correlator μ) : List (Op μ) → List (Op μ × Answer μ)
  | [] => []
  | op :: ops => (op, (c.step op).2) :: (c.step op).1.transcript ops

theorem transcript_append (ops later : List (Op μ)) :
    ∀ c : Correlator μ,
      c.transcript (ops ++ later) = c.transcript ops ++ (c.run ops).transcript later := by
  induction ops with
  | nil => exact fun _ => rfl
  | cons op ops ih => exact fun c => congrArg (_ :: ·) (ih (c.step op).1)

/-- Two neighbours that are apart have changed places. -/
inductive Swapped (c : Correlator μ) : List (Op μ) → List (Op μ) → Prop where
  | swap (before after : List (Op μ)) {a b : Op μ} (hab : Apart (c.run before) a b) :
      Swapped c (before ++ a :: b :: after) (before ++ b :: a :: after)

/-- Neighbours that are apart have changed places, any number of times. -/
def Rearranged (c : Correlator μ) : List (Op μ) → List (Op μ) → Prop :=
  Relation.ReflTransGen (Swapped c)

/-- A change of places is not noticed in the end, and no answer is another one. -/
theorem Sound.swapped (h : Sound c) {ops ops' : List (Op μ)} (hswap : Swapped c ops ops') :
    c.run ops = c.run ops' ∧ (c.transcript ops).Perm (c.transcript ops') := by
  cases hswap with
  | swap before after hab =>
      have hbefore := h.run before
      have hcomm := hbefore.step_comm hab
      constructor
      · rw [run_append, run_append]
        simp only [run_cons, hcomm]
      · rw [transcript_append, transcript_append]
        simp only [transcript, hcomm, hbefore.answer_step hab, hbefore.answer_step hab.symm]
        exact (List.Perm.swap _ _ _).append_left _

/-- Independent operations commute. In every state that a run can reach, of any two
among publications, replies given up or let go of and timers that fire,

- if they do not concern the same key, they lead in either order to the same
  correlator (table, timers, every reply with its outcome, counter), and each comes
  back with the answer that it has alone;
- so two runs that go on from there and differ in the order of such neighbours end
  in the same correlator, with the same answers to the same operations. -/
theorem independent_operations_commute (ops : List (Op μ)) :
    let c := run {} ops
    (∀ a b, Apart c a b →
      ((c.step a).1.step b).1 = ((c.step b).1.step a).1
      ∧ ((c.step a).1.step b).2 = (c.step b).2
      ∧ ((c.step b).1.step a).2 = (c.step a).2)
    ∧ ∀ later later', Rearranged c later later' →
      c.run later = c.run later' ∧ (c.transcript later).Perm (c.transcript later') := by
  intro c
  have h : Sound c := sound_empty.run ops
  refine ⟨fun a b hab => ⟨h.step_comm hab, h.answer_step hab, h.answer_step hab.symm⟩, ?_⟩
  intro later later' hall
  induction hall with
  | refl => exact ⟨rfl, .refl _⟩
  | tail _ hswap ih =>
      obtain ⟨hrun, hperm⟩ := h.swapped hswap
      exact ⟨ih.1.trans hrun, ih.2.trans hperm⟩

/-- Two subscriptions under two keys. -/
def neighbours : List (Op Nat) := [.subscribe 0 "a" (.ms 5), .subscribe 0 "b" (.ms 5)]

/-- The message for one and the timer of the other: whichever comes first, each of them
has its effect, and the message does not come back. -/
theorem neighbours_do_not_meet :
    let c := run {} neighbours
    let first := (c.step (.publish (some "a") 3)).1.step (.fire 2)
    let second := (c.step (.fire 2)).1.step (.publish (some "a") 3)
    Apart c (.publish (some "a") 3) (.fire 2)
    ∧ first.1 = second.1 ∧ second.2 = .published none
    ∧ first.1.outcome? 1 = some (.ok 3)
    ∧ first.1.outcome? 2 = some (.error (.timeout "b" (.ms 5))) := by
  have hapart : Apart (run {} neighbours) (.publish (some "a") 3) (.fire 2) := by
    refine ⟨rfl, rfl, fun key hkey => ?_⟩
    obtain rfl := Option.some.inj hkey
    decide
  obtain ⟨hsame, -, hanswer⟩ := (independent_operations_commute neighbours).1 _ _ hapart
  exact ⟨hapart, hsame, hanswer.trans rfl, rfl, rfl⟩

end DeviceTwin.Correlator
