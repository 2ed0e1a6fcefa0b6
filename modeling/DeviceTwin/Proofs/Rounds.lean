/-
Whom a dispatch calls when handlers act.

A run is any list of acts, and its history is what came of them. Two accounts
are kept along a run. One is of the registry: numbers are given out in order and
never again, and what is registered is what was ever registered less what was
taken out, in the order in which it came (`Accounted`). The other is of one
round: whom it called and whom it has still to call are together whom the
registry named when the round began, and it returns how many these are
(`Progress`). Nothing that a handler does touches the account of a round, because
nobody reads the registry for it again; and the innermost round alone moves, so
the rounds outside wait for it.

Together they say whom a dispatch calls (`dispatches_call_whom_they_found`). A
round is never lost: it is under way or it has called everybody, and if only
handlers finish, every round comes to its end (`finished`).
-/
import DeviceTwin.Client.Rounds
import DeviceTwin.Proofs.Client.Unclaimed

namespace DeviceTwin

variable {η : Type}

-- ================================================================= histories

namespace Rounds

/-- The state after a run of acts. -/
def run (s : Rounds η) (acts : List (Act η)) : Rounds η :=
  acts.foldl (fun s a => (s.act a).1) s

/-- What comes of the acts of a run, in order. -/
def history (s : Rounds η) : List (Act η) → List (Notice η)
  | [] => []
  | a :: acts => (s.act a).2.toList ++ (s.act a).1.history acts

theorem run_append (s : Rounds η) (acts later : List (Act η)) :
    s.run (acts ++ later) = (s.run acts).run later := List.foldl_append

/-- The history of a run is that of its parts, one after the other. -/
theorem history_append (acts later : List (Act η)) :
    ∀ s : Rounds η, s.history (acts ++ later) = s.history acts ++ (s.run acts).history later := by
  induction acts with
  | nil => exact fun _ => rfl
  | cons a acts ih =>
      intro s
      rw [List.cons_append, history, ih, ← List.append_assoc]
      rfl

/-- What every act keeps, of a state and what came of the acts before, a run keeps. -/
theorem run_keeps {P : Rounds η → List (Notice η) → Prop}
    (hact : ∀ s H a, P s H → P (s.act a).1 (H ++ (s.act a).2.toList)) (acts : List (Act η)) :
    ∀ {s : Rounds η} {H : List (Notice η)}, P s H → P (s.run acts) (H ++ s.history acts) := by
  induction acts with
  | nil =>
      intro s H h
      rw [history, List.append_nil]
      exact h
  | cons a acts ih =>
      intro s H h
      rw [history, ← List.append_assoc]
      exact ih (hact s H a h)

end Rounds

namespace Notice

/-- The registrations that were made. -/
def made (H : List (Notice η)) : List (Registration η) :=
  H.filterMap fun | .registered r => some r | _ => none

/-- The numbers of those that were taken out. -/
def removed (H : List (Notice η)) : List Nat :=
  H.filterMap fun | .deregistered id true => some id | _ => none

/-- The registrations that were made and not taken out, in the order in which
they were made. -/
def present (H : List (Notice η)) : List (Registration η) :=
  (made H).filter fun r => r.id ∉ removed H

/-- Those of them that an event concerns: they are for every entity or for its
own. -/
def found (H : List (Notice η)) (e : Event) : List (Registration η) :=
  (present H).filter fun r => r.entity = none ∨ r.entity = some e.entity

/-- Whom a round called. -/
def calls (round : Nat) (H : List (Notice η)) : List (Delivery η) :=
  H.filterMap fun | .called n d => if n = round then some d else none | _ => none

/-- What a round returned. -/
def returns (round : Nat) (H : List (Notice η)) : List Nat :=
  H.filterMap fun | .returned n count => if n = round then some count else none | _ => none

variable (H H' : List (Notice η)) (round : Nat)

@[simp] theorem made_append : made (H ++ H') = made H ++ made H' := List.filterMap_append

@[simp] theorem removed_append : removed (H ++ H') = removed H ++ removed H' :=
  List.filterMap_append

@[simp] theorem calls_append : calls round (H ++ H') = calls round H ++ calls round H' :=
  List.filterMap_append

@[simp] theorem returns_append : returns round (H ++ H') = returns round H ++ returns round H' :=
  List.filterMap_append

@[simp] theorem calls_called (d : Delivery η) : calls round [.called round d] = [d] :=
  List.filterMap_cons_some (if_pos rfl)

@[simp] theorem returns_returned (count : Nat) :
    returns round [(.returned round count : Notice η)] = [count] :=
  List.filterMap_cons_some (if_pos rfl)

end Notice

namespace Rounds

open Notice

variable {s : Rounds η} {H : List (Notice η)}

-- ==================================================================== a step

/-- What the innermost round does: nothing if there is none, else it is over or
calls the next handler. -/
theorem goOn_cases (s : Rounds η) :
    (s.underWay = [] ∧ s.goOn = (s, none))
    ∨ (∃ n size outer, s.underWay = ⟨n, size, []⟩ :: outer
        ∧ s.goOn = ({ s with underWay := outer }, some (.returned n size)))
    ∨ ∃ n size d waiting outer, s.underWay = ⟨n, size, d :: waiting⟩ :: outer
        ∧ s.goOn = ({ s with underWay := ⟨n, size, waiting⟩ :: outer }, some (.called n d)) := by
  unfold goOn
  split
  case h_1 h => exact .inl ⟨h, rfl⟩
  case h_2 n size outer h => exact .inr (.inl ⟨n, size, outer, h, rfl⟩)
  case h_3 n size d waiting outer h => exact .inr (.inr ⟨n, size, d, waiting, outer, h, rfl⟩)

/-- It leaves the registry alone, and neither registers anybody nor takes anybody
out. -/
theorem goOn_registry (s : Rounds η) :
    s.goOn.1.registry = s.registry ∧ made s.goOn.2.toList = [] ∧ removed s.goOn.2.toList = [] := by
  obtain ⟨-, h⟩ | ⟨n, size, outer, -, h⟩ | ⟨n, size, d, waiting, outer, -, h⟩ := s.goOn_cases
  all_goals
    rw [h]
    exact ⟨rfl, rfl, rfl⟩

-- =============================================================== the registry

/-- What a history says of the registry after it. -/
structure Accounted (s : Rounds η) (H : List (Notice η)) : Prop where
  numbered : (made H).map (·.id) = List.range' 1 (made H).length
  next : s.registry.nextId = (made H).length + 1
  kept : s.registry.registrations = present H
  once : (removed H).Nodup
  known : removed H ⊆ (made H).map (·.id)

/-- At first nobody is registered, and the first number is free. -/
theorem accounted_start : Accounted ({} : Rounds η) [] where
  numbered := rfl
  next := rfl
  kept := rfl
  once := List.nodup_nil
  known := List.nil_subset _

/-- What leaves the registry alone keeps the account. -/
theorem Accounted.of_registry {s' : Rounds η} {H' : List (Notice η)} (h : Accounted s H)
    (hregistry : s'.registry = s.registry) (hmade : made H' = []) (hremoved : removed H' = []) :
    Accounted s' (H ++ H') := by
  have hmade' : made (H ++ H') = made H := by rw [made_append, hmade, List.append_nil]
  have hremoved' : removed (H ++ H') = removed H := by
    rw [removed_append, hremoved, List.append_nil]
  refine ⟨?_, ?_, ?_, ?_, ?_⟩
  · rw [hmade']
    exact h.numbered
  · rw [hregistry, hmade']
    exact h.next
  · rw [hregistry, present, hmade', hremoved']
    exact h.kept
  · rw [hremoved']
    exact h.once
  · rw [hmade', hremoved']
    exact h.known

/-- Numbers that were given out lie below the next one. -/
theorem Accounted.id_lt (h : Accounted s H) {id : Nat} (hid : id ∈ (made H).map (·.id)) :
    id < s.registry.nextId := by
  rw [h.numbered, List.mem_range'_1] at hid
  rw [h.next]
  omega

/-- A registration takes the next number and comes behind those that are there. -/
theorem Accounted.register (h : Accounted s H) (entity : Option EntityId) (handler : η) :
    Accounted (s.act (.register entity handler)).1
      (H ++ (s.act (.register entity handler)).2.toList) := by
  have hmade : made (H ++ (s.act (.register entity handler)).2.toList)
      = made H ++ [⟨s.registry.nextId, entity, handler⟩] := made_append H _
  have hremoved : removed (H ++ (s.act (.register entity handler)).2.toList) = removed H :=
    (removed_append H _).trans (List.append_nil _)
  have hfresh : s.registry.nextId ∉ removed H :=
    fun hmem => Nat.lt_irrefl _ (h.id_lt (h.known hmem))
  refine ⟨?_, ?_, ?_, ?_, ?_⟩
  · rw [hmade, List.map_append, h.numbered, List.length_append, List.length_singleton,
      List.range'_concat, h.next]
    simp [Nat.add_comm]
  · rw [hmade, List.length_append]
    exact congrArg (· + 1) h.next
  · rw [present, hmade, hremoved, List.filter_append, List.filter_singleton]
    simp only [hfresh, not_false_eq_true, decide_true]
    exact congrArg (· ++ [_]) h.kept
  · rw [hremoved]
    exact h.once
  · rw [hmade, hremoved, List.map_append]
    exact fun id hid => List.mem_append_left _ (h.known hid)

/-- A registration is there exactly if its number was given out and not taken
back. -/
theorem Accounted.there_iff (h : Accounted s H) (id : Nat) :
    (s.registry.deregister id).2 = true ↔ id ∈ (made H).map (·.id) ∧ id ∉ removed H := by
  show s.registry.registrations.any (·.id == id) = true ↔ _
  rw [h.kept, present, List.any_eq_true]
  simp only [List.mem_filter, decide_eq_true_eq, beq_iff_eq, List.mem_map]
  constructor
  · rintro ⟨r, ⟨hr, hkept⟩, rfl⟩
    exact ⟨⟨r, hr, rfl⟩, hkept⟩
  · rintro ⟨⟨r, hr, rfl⟩, hkept⟩
    exact ⟨r, ⟨hr, hkept⟩, rfl⟩

/-- A number is taken out once, and whoever has it is gone; one that nobody has changes
nothing. -/
theorem Accounted.deregister (h : Accounted s H) (id : Nat) :
    Accounted (s.act (.deregister id)).1 (H ++ (s.act (.deregister id)).2.toList) := by
  have hnotice : (s.act (.deregister id)).2.toList
      = [.deregistered id (s.registry.deregister id).2] := rfl
  have hregistrations : (s.act (.deregister id)).1.registry.registrations
      = s.registry.registrations.filter (·.id != id) := rfl
  have hthere := h.there_iff id
  cases hanswer : (s.registry.deregister id).2 with
  | false =>
      -- nobody has the number
      have hnone : ∀ r ∈ s.registry.registrations, (r.id != id) = true := by
        have hany : s.registry.registrations.any (·.id == id) = false := hanswer
        simpa using hany
      have hsame : (s.act (.deregister id)).1.registry = s.registry := by
        show ({ s.registry with registrations := s.registry.registrations.filter (·.id != id) }
          : Registry η) = s.registry
        rw [List.filter_eq_self.mpr hnone]
      rw [hnotice, hanswer]
      exact h.of_registry hsame rfl rfl
  | true =>
      obtain ⟨hgiven, hkept⟩ := hthere.mp hanswer
      have hmade : made (H ++ (s.act (.deregister id)).2.toList) = made H :=
        (made_append H _).trans (List.append_nil _)
      have hremoved : removed (H ++ (s.act (.deregister id)).2.toList) = removed H ++ [id] := by
        rw [hnotice, hanswer]
        exact removed_append H _
      refine ⟨?_, ?_, ?_, ?_, ?_⟩
      · rw [hmade]
        exact h.numbered
      · rw [hmade]
        exact h.next
      · rw [hregistrations, h.kept, present, present, hmade, hremoved, List.filter_filter]
        refine List.filter_congr fun r _ => ?_
        by_cases hid : r.id = id <;> simp [hid]
      · rw [hremoved]
        exact List.nodup_append.mpr ⟨h.once, List.nodup_singleton _,
          fun x hx y hy => by rintro rfl; exact hkept (List.mem_singleton.mp hy ▸ hx)⟩
      · rw [hmade, hremoved]
        exact List.append_subset.mpr ⟨h.known, List.cons_subset.mpr ⟨hgiven, List.nil_subset _⟩⟩

/-- Every act keeps the account. -/
theorem Accounted.act (h : Accounted s H) (a : Act η) :
    Accounted (s.act a).1 (H ++ (s.act a).2.toList) := by
  cases a with
  | register entity handler => exact h.register entity handler
  | deregister id => exact h.deregister id
  | dispatch e =>
      obtain ⟨hregistry, hmade, hremoved⟩ := (s.enter (s.registry.deliveries e)).goOn_registry
      exact h.of_registry hregistry hmade hremoved
  | finish =>
      obtain ⟨hregistry, hmade, hremoved⟩ := s.goOn_registry
      exact h.of_registry hregistry hmade hremoved

/-- The account of the registry holds after every run. -/
theorem accounted (acts : List (Act η)) :
    Accounted (run {} acts : Rounds η) (history {} acts) :=
  run_keeps (fun _ _ a h => h.act a) acts accounted_start

-- ============================================================ the rounds' order

/-- The rounds under way are in the order of their numbers, the youngest first,
and a number that is not yet given has not been heard of. -/
structure Placed (s : Rounds η) (H : List (Notice η)) : Prop where
  nested : s.underWay.Pairwise fun inner outer => outer.number < inner.number
  begun : ∀ r ∈ s.underWay, r.number < s.next
  unheard : ∀ n, s.next ≤ n → calls n H = [] ∧ returns n H = []

/-- At first no round is under way, and none has been heard of. -/
theorem placed_start : Placed ({} : Rounds η) [] where
  nested := .nil
  begun := fun _ h => nomatch h
  unheard := fun _ _ => ⟨rfl, rfl⟩

/-- A round that begins is the youngest, and has the next number. -/
theorem Placed.enter (h : Placed s H) (deliveries : List (Delivery η)) :
    Placed (s.enter deliveries) H where
  nested := List.pairwise_cons.mpr ⟨h.begun, h.nested⟩
  begun := by
    intro r hr
    rcases List.mem_cons.mp hr with rfl | hr
    · exact Nat.lt_succ_self _
    · exact Nat.lt_succ_of_lt (h.begun r hr)
  unheard := fun n hn => h.unheard n (Nat.le_of_succ_le hn)

/-- Going on gives out no number. -/
theorem goOn_next (s : Rounds η) : s.goOn.1.next = s.next := by
  obtain ⟨-, h⟩ | ⟨n, size, outer, -, h⟩ | ⟨n, size, d, waiting, outer, -, h⟩ := s.goOn_cases
  all_goals rw [h]

/-- Going on is heard of from the innermost round only. -/
theorem goOn_unheard {n : Nat} (hn : ∀ r ∈ s.underWay.head?, r.number ≠ n) :
    calls n s.goOn.2.toList = [] ∧ returns n s.goOn.2.toList = [] := by
  obtain ⟨-, h⟩ | ⟨m, size, outer, hfirst, h⟩ | ⟨m, size, d, waiting, outer, hfirst, h⟩ :=
    s.goOn_cases
  · rw [h]
    exact ⟨rfl, rfl⟩
  all_goals
    rw [hfirst] at hn
    have hm : m ≠ n := hn _ rfl
    rw [h]
    simp [calls, returns, hm]

/-- And it moves no other round. -/
theorem goOn_passes {n : Nat} (hn : ∀ r ∈ s.underWay.head?, r.number ≠ n) {r : Round η}
    (hr : r.number = n) : r ∈ s.goOn.1.underWay ↔ r ∈ s.underWay := by
  obtain ⟨-, h⟩ | ⟨m, size, outer, hfirst, h⟩ | ⟨m, size, d, waiting, outer, hfirst, h⟩ :=
    s.goOn_cases
  · rw [h]
  all_goals
    rw [hfirst] at hn
    have hm : m ≠ n := hn _ rfl
    have hne : ∀ waiting : List (Delivery η), r ≠ ⟨m, size, waiting⟩ := by
      rintro waiting rfl
      exact hm hr
    rw [h, hfirst]
    simp [hne]

/-- The rounds stay in order as the innermost one goes on. -/
theorem Placed.goOn (h : Placed s H) : Placed s.goOn.1 (H ++ s.goOn.2.toList) := by
  have hunheard : ∀ n, s.goOn.1.next ≤ n →
      calls n (H ++ s.goOn.2.toList) = [] ∧ returns n (H ++ s.goOn.2.toList) = [] := by
    intro n hn
    rw [goOn_next] at hn
    obtain ⟨hcalls, hreturns⟩ := h.unheard n hn
    obtain ⟨hcalls', hreturns'⟩ : calls n s.goOn.2.toList = [] ∧ returns n s.goOn.2.toList = [] :=
      goOn_unheard fun r hr => Nat.ne_of_lt
        (Nat.lt_of_lt_of_le (h.begun r (List.mem_of_mem_head? hr)) hn)
    rw [calls_append, returns_append, hcalls, hreturns, hcalls', hreturns']
    exact ⟨rfl, rfl⟩
  refine ⟨?_, ?_, hunheard⟩
  · have hnested := h.nested
    obtain ⟨-, hgo⟩ | ⟨m, size, outer, hfirst, hgo⟩ | ⟨m, size, d, waiting, outer, hfirst, hgo⟩ :=
      s.goOn_cases
    · rw [hgo]
      exact hnested
    all_goals
      rw [hfirst, List.pairwise_cons] at hnested
      rw [hgo]
    · exact hnested.2
    · exact List.pairwise_cons.mpr hnested
  · have hbegun := h.begun
    obtain ⟨-, hgo⟩ | ⟨m, size, outer, hfirst, hgo⟩ | ⟨m, size, d, waiting, outer, hfirst, hgo⟩ :=
      s.goOn_cases
    · rw [hgo]
      exact hbegun
    all_goals
      rw [hfirst, List.forall_mem_cons] at hbegun
      rw [hgo]
    · exact hbegun.2
    · exact List.forall_mem_cons.mpr hbegun

/-- Every act keeps the rounds in order. -/
theorem Placed.act (h : Placed s H) (a : Act η) : Placed (s.act a).1 (H ++ (s.act a).2.toList) := by
  cases a with
  | dispatch e => exact (h.enter _).goOn
  | finish => exact h.goOn
  | register | deregister =>
      -- neither is heard of from any round
      refine ⟨h.nested, h.begun, fun n hn => ?_⟩
      rw [calls_append, returns_append, (h.unheard n hn).1, (h.unheard n hn).2]
      exact ⟨rfl, rfl⟩

/-- The rounds are in order after every run. -/
theorem placed (acts : List (Act η)) : Placed (run {} acts : Rounds η) (history {} acts) :=
  run_keeps (fun _ _ a h => h.act a) acts placed_start

-- =================================================================== one round

/-- How far a round has come that was to call `all`: it is under way and has
called those that do not wait any more, or it has called everybody and has
returned how many they were. -/
inductive Progress (s : Rounds η) (H : List (Notice η)) (n : Nat) (all : List (Delivery η)) :
    Prop where
  | underWay (waiting : List (Delivery η)) (there : ⟨n, all.length, waiting⟩ ∈ s.underWay)
      (called : calls n H ++ waiting = all) (silent : returns n H = [])
  | ended (gone : ∀ r ∈ s.underWay, r.number ≠ n) (called : calls n H = all)
      (returned : returns n H = [all.length])

variable {n : Nat} {all : List (Delivery η)}

/-- What neither moves a round nor is heard of from it leaves it where it is. -/
theorem Progress.of_same {s' : Rounds η} {H' : List (Notice η)} (h : Progress s H n all)
    (hsame : ∀ r : Round η, r.number = n → (r ∈ s'.underWay ↔ r ∈ s.underWay))
    (hcalls : calls n H' = []) (hreturns : returns n H' = []) : Progress s' (H ++ H') n all := by
  have hcalls' : calls n (H ++ H') = calls n H := by rw [calls_append, hcalls, List.append_nil]
  have hreturns' : returns n (H ++ H') = returns n H := by
    rw [returns_append, hreturns, List.append_nil]
  cases h with
  | underWay waiting there called silent =>
      exact .underWay waiting ((hsame _ rfl).mpr there) (hcalls' ▸ called) (hreturns' ▸ silent)
  | ended gone called returned =>
      refine .ended (fun r hr hnumber => ?_) (hcalls' ▸ called) (hreturns' ▸ returned)
      exact gone r ((hsame r hnumber).mp hr) hnumber

/-- A round begins with everybody waiting. -/
theorem Placed.progress_enter (h : Placed s H) (all : List (Delivery η)) :
    Progress (s.enter all) H s.next all := by
  obtain ⟨hcalls, hreturns⟩ := h.unheard s.next (Nat.le_refl _)
  exact .underWay all List.mem_cons_self (by rw [hcalls, List.nil_append]) hreturns

/-- The rounds that are there stay where they are when another one begins. -/
theorem Progress.enter (h : Progress s H n all) (hn : n < s.next) (others : List (Delivery η)) :
    Progress (s.enter others) H n all := by
  have hstay : Progress (s.enter others) (H ++ []) n all := by
    refine h.of_same (fun r hr => ?_) rfl rfl
    have hne : r ≠ ⟨s.next, others.length, others⟩ := by
      rintro rfl
      exact Nat.ne_of_gt hn hr
    exact List.mem_cons.trans (or_iff_right hne)
  rwa [List.append_nil] at hstay

/-- Of its number the innermost round is the only one. -/
theorem Placed.eq_first (h : Placed s H) {first r : Round η} {outer : List (Round η)}
    (hfirst : s.underWay = first :: outer) (hr : r ∈ s.underWay) (hnumber : r.number = first.number) :
    r = first := by
  have hnested := h.nested
  rw [hfirst, List.pairwise_cons] at hnested
  rw [hfirst, List.mem_cons] at hr
  rcases hr with hr | hr
  · exact hr
  · exact absurd hnumber (Nat.ne_of_lt (hnested.1 r hr))

/-- The innermost round calls the next of those who wait, or returns how many it
called. -/
theorem Progress.goOn_first (h : Progress s H n all) (hs : Placed s H) {size : Nat}
    {waiting : List (Delivery η)} {outer : List (Round η)}
    (hfirst : s.underWay = ⟨n, size, waiting⟩ :: outer) :
    Progress s.goOn.1 (H ++ s.goOn.2.toList) n all := by
  cases h with
  | ended gone =>
      have hthere : ⟨n, size, waiting⟩ ∈ s.underWay := hfirst ▸ List.mem_cons_self
      exact absurd rfl (gone _ hthere)
  | underWay waiting' there called silent =>
      have hround := hs.eq_first hfirst there rfl
      rw [Round.mk.injEq] at hround
      obtain ⟨-, hsize, rfl⟩ := hround
      cases waiting' with
      | nil =>
          have hgo : s.goOn = ({ s with underWay := outer }, some (.returned n size)) := by
            rw [goOn, hfirst]
          have hnested := hs.nested
          rw [hfirst, List.pairwise_cons] at hnested
          rw [hgo, Option.toList_some]
          refine .ended (fun r hr => Nat.ne_of_lt (hnested.1 r hr)) ?_ ?_
          · rw [calls_append]
            exact called
          · rw [returns_append, silent, returns_returned, List.nil_append, hsize]
      | cons d waiting =>
          have hgo : s.goOn
              = ({ s with underWay := ⟨n, size, waiting⟩ :: outer }, some (.called n d)) := by
            rw [goOn, hfirst]
          rw [hgo, Option.toList_some]
          refine .underWay waiting (hsize ▸ List.mem_cons_self) ?_ ?_
          · rw [calls_append, calls_called, List.append_assoc]
            exact called
          · rw [returns_append, silent]
            rfl

/-- Going on keeps the account of every round. -/
theorem Progress.goOn (h : Progress s H n all) (hs : Placed s H) :
    Progress s.goOn.1 (H ++ s.goOn.2.toList) n all := by
  by_cases hn : ∀ r ∈ s.underWay.head?, r.number ≠ n
  · obtain ⟨hcalls, hreturns⟩ := goOn_unheard hn
    exact h.of_same (fun r hr => goOn_passes hn hr) hcalls hreturns
  · push Not at hn
    obtain ⟨⟨_, size, waiting⟩, hfirst, rfl⟩ := hn
    obtain ⟨outer, hfirst⟩ := List.head?_eq_some_iff.mp hfirst
    exact h.goOn_first hs hfirst

/-- And so does every act. -/
theorem Progress.act (h : Progress s H n all) (hs : Placed s H) (hn : n < s.next) (a : Act η) :
    Progress (s.act a).1 (H ++ (s.act a).2.toList) n all := by
  cases a with
  | register | deregister => exact h.of_same (fun _ _ => Iff.rfl) rfl rfl
  | dispatch e => exact (h.enter hn _).goOn (hs.enter _)
  | finish => exact h.goOn hs

/-- Numbers of rounds only grow. -/
theorem next_le_act (s : Rounds η) (a : Act η) : s.next ≤ (s.act a).1.next := by
  cases a with
  | register | deregister => exact Nat.le_refl _
  | dispatch e =>
      show s.next ≤ (s.enter (s.registry.deliveries e)).goOn.1.next
      rw [goOn_next]
      exact Nat.le_succ _
  | finish => exact Nat.le_of_eq s.goOn_next.symm

/-- A round that is known keeps its account through every run. -/
theorem Progress.run (h : Progress s H n all) (hs : Placed s H) (hn : n < s.next)
    (acts : List (Act η)) : Progress (s.run acts) (H ++ s.history acts) n all :=
  (run_keeps (P := fun s H => Progress s H n all ∧ Placed s H ∧ n < s.next)
    (fun s _ a ⟨h, hs, hn⟩ =>
      ⟨h.act hs hn a, hs.act a, Nat.lt_of_lt_of_le hn (s.next_le_act a)⟩)
    acts ⟨h, hs, hn⟩).1

/-- A dispatch is a round that is to call whom the registry names, whatever is
done after it. -/
theorem progress_of_dispatch (before after : List (Act η)) (e : Event) :
    Progress (run {} (before ++ .dispatch e :: after)) (history {} (before ++ .dispatch e :: after))
      (run {} before : Rounds η).next ((run {} before : Rounds η).registry.deliveries e) := by
  have hs : Placed (run {} before : Rounds η) (history {} before) := placed before
  have hbegun := (hs.progress_enter ((run {} before : Rounds η).registry.deliveries e)).goOn
    (hs.enter _)
  have hnext : (run {} before : Rounds η).next < ((run {} before).act (.dispatch e)).1.next := by
    show _ < (enter _ _).goOn.1.next
    rw [goOn_next]
    exact Nat.lt_succ_self _
  rw [run_append, history_append, history, ← List.append_assoc]
  exact hbegun.run (hs.act (.dispatch e)) hnext after

/-- What a round returned is how many it was to call, and it called them. -/
theorem Progress.of_returned (h : Progress s H n all) (hreturned : returns n H ≠ []) :
    calls n H = all ∧ returns n H = [all.length] := by
  cases h with
  | underWay _ _ _ silent => exact absurd silent hreturned
  | ended _ called returned => exact ⟨called, returned⟩

/-- Once no round is under way, it has called everybody and has returned how many they
were. -/
theorem Progress.of_idle (h : Progress s H n all) (hidle : s.underWay = []) :
    calls n H = all ∧ returns n H = [all.length] := by
  cases h with
  | underWay waiting there => exact absurd (hidle ▸ there) List.not_mem_nil
  | ended _ called returned => exact ⟨called, returned⟩

/-- A dispatch that finds nobody is over at once. -/
theorem returns_of_nobody (before after : List (Act η)) {e : Event}
    (hnobody : (run {} before : Rounds η).registry.deliveries e = []) :
    returns (run {} before : Rounds η).next (history {} (before ++ .dispatch e :: after)) ≠ [] := by
  have hnotice : ((run {} before : Rounds η).act (.dispatch e)).2
      = some (.returned (run {} before : Rounds η).next 0) := by
    show (enter _ _).goOn.2 = _
    rw [hnobody]
    rfl
  rw [history_append, history, hnotice, Option.toList_some, returns_append, returns_append,
    returns_returned]
  exact List.append_ne_nil_of_right_ne_nil _ (List.cons_ne_nil _ _)

-- ============================================================== every round ends

/-- How many calls and returns are still to come if handlers do nothing but
finish. -/
def left (s : Rounds η) : Nat := (s.underWay.map fun r => r.waiting.length + 1).sum

/-- If handlers only finish, as many times as there are calls and returns left, every
round is over. -/
theorem finished (k : Nat) : ∀ s : Rounds η, s.left = k →
    (s.run (List.replicate k .finish)).underWay = [] := by
  induction k with
  | zero =>
      intro s hleft
      cases hunder : s.underWay with
      | nil => exact hunder
      | cons r outer =>
          rw [left, hunder, List.map_cons, List.sum_cons] at hleft
          omega
  | succ k ih =>
      intro s hleft
      refine ih (s.act .finish).1 ?_
      show s.goOn.1.left = k
      obtain ⟨h, -⟩ | ⟨m, size, outer, h, hgo⟩ | ⟨m, size, d, waiting, outer, h, hgo⟩ := s.goOn_cases
      all_goals
        rw [left, h] at hleft
      · cases hleft
      all_goals
        rw [hgo, left]
        simp only [List.map_cons, List.sum_cons, List.length_nil, List.length_cons] at hleft ⊢
        omega

-- ============================================================== who is called

/-- What the registry names for a change is whom the history finds. -/
theorem deliveries_of_found (acts : List (Act η)) {e : Event} {action : ChangeAction}
    (haction : ChangeAction.ofEventName? e.name = some action) :
    (run {} acts : Rounds η).registry.deliveries e
      = (found (history {} acts) e).map fun r => ⟨r.handler,
          ⟨action, e.entity, e.path, e.value, e.revision, e.timestamp, e.extra, e.headers⟩⟩ := by
  rw [Registry.deliveries_of_change _ (Change.ofEvent?_eq_some haction), Registry.targets,
    (accounted acts).kept, found]
  refine congrArg (List.map _) (List.filter_congr fun r _ => ?_)
  cases hentity : r.entity <;> simp [Registration.isFor, hentity]

/-- Numbers below the size of a machine word are told apart by their words. -/
theorem nodup_words {ids : List Nat} (h : ids.Nodup) (hsmall : ∀ id ∈ ids, id < UInt64.size) :
    (ids.map UInt64.ofNat).Nodup := by
  refine (List.nodup_map_iff_inj_on h).mpr fun a ha b hb hab => ?_
  have hword := congrArg UInt64.toNat hab
  rwa [UInt64.toNat_ofNat_of_lt' (hsmall a ha), UInt64.toNat_ofNat_of_lt' (hsmall b hb)] at hword

/-- Whatever is done and by whom, handlers that are being called included: no two
registrations are given one number, nor one word as long as there are fewer than
there are words; what is there is what was registered and not taken out, in order;
a number is taken out once, by the first who asks after it was given, and the
others stay. An event that is no change calls nobody and returns zero. Any other
dispatch calls those who were registered when it began and whom its event
concerns, in order, each once and with the data of the event; when it has called
everybody it returns how many they are, and it does so if the handlers finish. -/
theorem dispatches_call_whom_they_found (acts : List (Act η)) :
    let s : Rounds η := run {} acts
    let H : List (Notice η) := history {} acts
    ((made H).map (·.id)).Nodup
    ∧ ((made H).length < UInt64.size → ((made H).map fun r => UInt64.ofNat r.id).Nodup)
    ∧ s.registry.registrations = present H
    ∧ (removed H).Nodup
    ∧ (∀ id, ∃ there, (s.act (.deregister id)).2 = some (.deregistered id there)
        ∧ (there = true ↔ id ∈ (made H).map (·.id) ∧ id ∉ removed H)
        ∧ (s.act (.deregister id)).1.registry.registrations = (present H).filter (·.id ≠ id))
    ∧ ∀ before e after, acts = before ++ .dispatch e :: after →
        let n := (run {} before : Rounds η).next
        (ChangeAction.ofEventName? e.name = none → calls n H = [] ∧ returns n H = [0])
        ∧ ∀ action, ChangeAction.ofEventName? e.name = some action →
          let all := (found (history {} before) e).map fun r => (⟨r.handler,
            ⟨action, e.entity, e.path, e.value, e.revision, e.timestamp, e.extra, e.headers⟩⟩
              : Delivery η)
          Progress s H n all
          ∧ ∃ k, let H' := history {} (acts ++ List.replicate k .finish)
              calls n H' = all ∧ returns n H' = [all.length] := by
  have haccount := accounted acts
  have hnodup : ((made (history ({} : Rounds η) acts)).map (·.id)).Nodup := by
    rw [haccount.numbered]
    exact List.nodup_range'
  refine ⟨hnodup, fun hfew => ?_, haccount.kept, haccount.once, fun id => ?_, ?_⟩
  · have hsmall : ∀ id ∈ (made (history ({} : Rounds η) acts)).map (·.id), id < UInt64.size := by
      intro id hid
      have hlt := haccount.id_lt hid
      rw [haccount.next] at hlt
      omega
    have hwords := nodup_words hnodup hsmall
    rwa [List.map_map] at hwords
  · refine ⟨_, rfl, haccount.there_iff id, ?_⟩
    rw [← haccount.kept]
    refine List.filter_congr fun r _ => ?_
    by_cases hid : r.id = id <;> simp [hid]
  · rintro before e after rfl
    have hprogress := progress_of_dispatch before after e
    refine ⟨fun hname => ?_, fun action haction => ⟨?_, ?_⟩⟩
    · have hnobody := (run {} before : Rounds η).registry.deliveries_of_no_change hname
      have hover := hprogress.of_returned (returns_of_nobody before after hnobody)
      rwa [hnobody] at hover
    · rw [← deliveries_of_found before haction]
      exact hprogress
    · rw [← deliveries_of_found before haction]
      refine ⟨left (run {} (before ++ .dispatch e :: after)), ?_⟩
      have hlater := progress_of_dispatch before
        (after ++ List.replicate (left (run {} (before ++ .dispatch e :: after))) .finish) e
      rw [← List.cons_append, ← List.append_assoc] at hlater
      refine hlater.of_idle ?_
      rw [run_append]
      exact finished _ _ rfl

/-- The first of two handlers takes the second out and registers a third: the
second is called all the same, and the third is not. -/
example :
    let dimmed : Event := {
      type := SignalType.ofParts .things "events" "thingModified"
      entity := ⟨"garden", "lamp", by decide, by decide⟩, path := .root, value := none
      revision := 0, timestamp := none, extra := none, headers := .empty }
    let H := history {} [.register none "first", .register none "second", .dispatch dimmed,
      .deregister 2, .register none "third", .finish, .finish]
    (calls 0 H).map (·.handler) = ["first", "second"] ∧ returns 0 H = [2]
    ∧ (present H).map (·.handler) = ["first", "third"] := by decide

end Rounds

end DeviceTwin
