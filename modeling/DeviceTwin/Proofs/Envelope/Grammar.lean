/-
Which envelopes are signals, and which signals they are.

The grammar of envelopes (`Envelope.Grammatical`) has a rule for every
criterion. Commands, their responses and events need an action in the topic;
errors need a status and a value that spells error details; acknowledgements
need a status, and a set of them, which has no action, a list of members as its
value if it has a value. An envelope is turned into a signal if and only if it
follows its rule, and it never depends on the value of the status or the action
of which kind the signal is, only on whether they are there (`Envelope.kind`).

The members of a set stand or fall together: they come from the items of the
list, one from each and in their order, and if one item spells no member there
is no signal.
-/
import DeviceTwin.Proofs.Envelope.Received

namespace DeviceTwin

namespace Envelope

variable {e : Envelope} {s : Signal}

-- =================================================================== grammar

/-- What an envelope needs to be a signal. -/
def Grammatical (e : Envelope) : Prop :=
  match e.topic.criterion with
  | .commands | .events => ∃ action, e.topic.action = some action
  | .errors =>
      ∃ status value details, e.status = some status ∧ e.value = some value
        ∧ ErrorDetails.Spells value.value details
  | .acks =>
      (∃ status, e.status = some status)
        ∧ (e.topic.action = none → ∀ value, e.value = some value →
          ∃ items, value.value = .list items ∧ ∀ v ∈ items, ∃ r, MemberRecord.Spells v r)

/-- The kind of signals that an envelope is for. -/
def kind (e : Envelope) : Kind :=
  match e.topic.criterion, e.status, e.topic.action with
  | .commands, none, _ => .command
  | .commands, some _, _ => .response
  | .events, _, _ => .event
  | .errors, _, _ => .error
  | .acks, _, some _ => .acknowledgement
  | .acks, _, none => .acknowledgements

theorem Holds.kind_eq (h : Holds e s) : s.kind = e.kind := by
  cases h with
  | command haction hstatus hcriterion => simp [kind, hcriterion, hstatus, Signal.kind]
  | response haction hstatus hcriterion => simp [kind, hcriterion, hstatus, Signal.kind]
  | event haction hcriterion => simp [kind, hcriterion, Signal.kind]
  | error hstatus hvalue hdetails hcriterion => simp [kind, hcriterion, Signal.kind]
  | acknowledgement haction hstatus hcriterion =>
      simp [kind, hcriterion, haction, Signal.kind]
  | acknowledgements hstatus hmembers haction hcriterion =>
      simp [kind, hcriterion, haction, Signal.kind]

/-- Items spell members together if each of them spells one. -/
theorem exists_forall₂_spells {items : List Value} :
    (∃ records, List.Forall₂ MemberRecord.Spells items records)
      ↔ ∀ v ∈ items, ∃ r, MemberRecord.Spells v r := by
  induction items with
  | nil => simp
  | cons v items ih =>
      rw [List.forall_mem_cons, ← ih]
      constructor
      · intro h
        obtain ⟨_, h⟩ := h
        cases h with
        | cons hv hitems => exact ⟨⟨_, hv⟩, _, hitems⟩
      · intro h
        obtain ⟨⟨r, hv⟩, records, hitems⟩ := h
        exact ⟨r :: records, .cons hv hitems⟩

/-- There are members in an envelope if it has no value or each item of the
list that is its value spells one. -/
theorem exists_members :
    (∃ records, e.members = .ok records)
      ↔ ∀ value, e.value = some value →
        ∃ items, value.value = .list items ∧ ∀ v ∈ items, ∃ r, MemberRecord.Spells v r := by
  simp only [members_eq_ok]
  constructor
  · intro h value hvalue
    obtain ⟨records, ⟨hnone, -⟩ | ⟨value', items, hvalue', hlist, hitems⟩⟩ := h
    · rw [hvalue] at hnone
      cases hnone
    · obtain rfl := Option.some.inj (hvalue.symm.trans hvalue')
      exact ⟨items, hlist, exists_forall₂_spells.mp ⟨records, hitems⟩⟩
  · intro h
    cases hvalue : e.value with
    | none => exact ⟨[], .inl ⟨rfl, rfl⟩⟩
    | some value =>
        obtain ⟨items, hlist, hitems⟩ := h value hvalue
        obtain ⟨records, hrecords⟩ := exists_forall₂_spells.mpr hitems
        exact ⟨records, .inr ⟨value, items, rfl, hlist, hrecords⟩⟩

/-- An envelope holds a signal if and only if it follows the grammar. -/
theorem exists_holds : (∃ s, Holds e s) ↔ e.Grammatical := by
  constructor
  · intro h
    obtain ⟨s, h⟩ := h
    unfold Grammatical
    cases h with
    | command haction hstatus hcriterion =>
        rw [hcriterion]
        exact ⟨_, haction⟩
    | response haction hstatus hcriterion =>
        rw [hcriterion]
        exact ⟨_, haction⟩
    | event haction hcriterion =>
        rw [hcriterion]
        exact ⟨_, haction⟩
    | error hstatus hvalue hdetails hcriterion =>
        rw [hcriterion]
        exact ⟨_, _, _, hstatus, hvalue, details_eq_ok.mp hdetails⟩
    | acknowledgement haction hstatus hcriterion =>
        rw [hcriterion]
        refine ⟨⟨_, hstatus⟩, fun hnone => ?_⟩
        rw [haction] at hnone
        cases hnone
    | acknowledgements hstatus hmembers haction hcriterion =>
        rw [hcriterion]
        exact ⟨⟨_, hstatus⟩, fun _ => exists_members.mp ⟨_, hmembers⟩⟩
  · intro h
    unfold Grammatical at h
    cases hcriterion : e.topic.criterion with
    | commands =>
        rw [hcriterion] at h
        obtain ⟨action, haction⟩ := h
        cases hstatus : e.status with
        | none => exact ⟨_, .command haction hstatus hcriterion⟩
        | some status => exact ⟨_, .response haction hstatus hcriterion⟩
    | events =>
        rw [hcriterion] at h
        obtain ⟨action, haction⟩ := h
        exact ⟨_, .event haction hcriterion⟩
    | errors =>
        rw [hcriterion] at h
        obtain ⟨status, value, details, hstatus, hvalue, hdetails⟩ := h
        exact ⟨_, .error hstatus hvalue (details_eq_ok.mpr hdetails) hcriterion⟩
    | acks =>
        rw [hcriterion] at h
        obtain ⟨⟨status, hstatus⟩, hset⟩ := h
        cases haction : e.topic.action with
        | some label => exact ⟨_, .acknowledgement haction hstatus hcriterion⟩
        | none =>
            obtain ⟨records, hmembers⟩ := exists_members.mpr (hset haction)
            exact ⟨_, .acknowledgements hstatus hmembers haction hcriterion⟩

/-- The grammar of envelopes. For every envelope, wherever it is from:

- it is turned into a signal if and only if it is grammatical;
- the kind of the signal follows from the criterion and from whether there are
  a status and an action;
- an error has the details that the value spells;
- a set has no members if there is no value; otherwise the value is a list, and
  the members correspond to its items one by one: each has the label, the
  status, the headers and the payload that its item spells, and the entity as
  well, which is that of the topic if the item has none;
- if one item of the list spells no member, there is no signal. -/
theorem envelopes_are_signals_by_grammar (e : Envelope) :
    ((∃ s, e.toSignal = .ok s) ↔ e.Grammatical)
    ∧ (∀ s, e.toSignal = .ok s → s.kind = e.kind)
    ∧ (∀ err, e.toSignal = .ok (.error err) →
      ∃ value, e.value = some value ∧ ErrorDetails.Spells value.value err.details)
    ∧ (∀ set, e.toSignal = .ok (.acknowledgements set) →
      (e.value = none ∧ set.members = [])
      ∨ ∃ value items, e.value = some value ∧ value.value = .list items
        ∧ set.members.length = items.length
        ∧ ∀ (i : Nat) (v : Value), items[i]? = some v → ∃ r, MemberRecord.Spells v r
          ∧ set.members[i]? = some (⟨r.label, r.entity.getD e.topic.entity, r.status,
              r.headers, r.payload⟩ : Acknowledgement))
    ∧ (∀ value items, e.topic.criterion = .acks → e.topic.action = none →
      e.value = some value → value.value = .list items →
      ∀ v ∈ items, (∀ r, ¬ MemberRecord.Spells v r) → ∃ err, e.toSignal = .error err) := by
  simp only [toSignal_eq_ok]
  refine ⟨exists_holds, fun s h => h.kind_eq, fun err h => ?_, fun set h => ?_, ?_⟩
  · cases h with
    | error hstatus hvalue hdetails hcriterion =>
        exact ⟨_, hvalue, details_eq_ok.mp hdetails⟩
  · cases h with
    | @acknowledgements _ records hstatus hmembers haction hcriterion =>
        rcases members_eq_ok.mp hmembers with
          ⟨hvalue, rfl⟩ | ⟨value, items, hvalue, hlist, hitems⟩
        · exact .inl ⟨hvalue, rfl⟩
        · refine .inr ⟨value, items, hvalue, hlist, ?_, fun i v hv => ?_⟩
          · rw [List.length_map, hitems.length_eq]
          · obtain ⟨hi, rfl⟩ := List.getElem?_eq_some_iff.mp hv
            have hi' : i < records.length := hitems.length_eq ▸ hi
            refine ⟨records[i], hitems.get hi hi', ?_⟩
            rw [List.getElem?_map, List.getElem?_eq_getElem hi']
            rfl
  · intro value items hcriterion haction hvalue hlist v hv hbad
    cases hsignal : e.toSignal with
    | error err => exact ⟨err, rfl⟩
    | ok s =>
        have hgrammar := exists_holds.mp ⟨s, holds_of_toSignal hsignal⟩
        simp only [Grammatical, hcriterion] at hgrammar
        obtain ⟨items', hlist', hitems⟩ := hgrammar.2 haction value hvalue
        obtain rfl : items = items' := Value.list.inj (hlist.symm.trans hlist')
        obtain ⟨r, hr⟩ := hitems v hv
        exact absurd hr (hbad r)

end Envelope

end DeviceTwin
