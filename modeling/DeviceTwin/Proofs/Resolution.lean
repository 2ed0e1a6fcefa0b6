/-
Sets that were put together from members, and the responses they stand for.

Two rules meet here. The overall status of a set follows from its members
(`Acknowledgements.overallStatus`), and a set stands for no response if its
overall status is an error (`Acknowledgements.resolve`). They fit together:
a set that was aggregated fails in exactly two cases (`Failing`), a single
member with an error, or several members one of which is no success. The
codes that are neither decide the difference: a single member with one lends
it to the set, which does not fail, and among several members it is as bad as
an error.

So of a set that stands for a response no member has an error
(`not_isFailure_of_mem`), and the response, which has the status of a member,
reports none.
-/
import DeviceTwin.Proofs.Address
import DeviceTwin.Resolution
import Mathlib.Data.List.Basic

namespace DeviceTwin

-- =================================================================== statuses

namespace Status

variable {s : Status}

theorem isSuccess_iff : s.isSuccess = true ↔ 200 ≤ s.code.toNat ∧ s.code.toNat < 300 := by
  simp [isSuccess, UInt16.le_iff_toNat_le, UInt16.lt_iff_toNat_lt]

/-- The two ranges of errors are neighbours. -/
theorem isFailure_iff : s.isFailure = true ↔ 400 ≤ s.code.toNat ∧ s.code.toNat < 600 := by
  simp only [isFailure, isClientError, isServerError, UInt16.le_iff_toNat_le,
    UInt16.lt_iff_toNat_lt, Bool.or_eq_true, Bool.and_eq_true, decide_eq_true_eq,
    UInt16.reduceToNat]
  omega

/-- A success is no error. -/
theorem not_isFailure_of_isSuccess (h : s.isSuccess = true) : s.isFailure = false := by
  by_contra hfailure
  rw [Bool.not_eq_false, isFailure_iff] at hfailure
  rw [isSuccess_iff] at h
  omega

end Status

namespace Acknowledgements

-- =================================================================== resolving

section Resolving

variable {set : Acknowledgements} {request : Signal}

/-- A member is the first one in a list that says that the change was stored. -/
structure IsFirstStored (members : List Acknowledgement) (stored : Acknowledgement) : Prop where
  label : stored.label = persistedLabel
  first : ∃ before after, members = before ++ stored :: after
    ∧ ∀ m ∈ before, m.label ≠ persistedLabel

theorem get?_eq_none {label : String} :
    set.get? label = none ↔ ∀ m ∈ set.members, m.label ≠ label := by
  simp [get?]

theorem get?_persisted {stored : Acknowledgement} :
    set.get? persistedLabel = some stored ↔ IsFirstStored set.members stored := by
  unfold get?
  rw [List.find?_eq_some_iff_append]
  constructor
  · rintro ⟨hlabel, before, after, hmembers, hbefore⟩
    refine ⟨beq_iff_eq.mp hlabel, before, after, hmembers, fun m hm => ?_⟩
    simpa using hbefore m hm
  · rintro ⟨hlabel, before, after, hmembers, hbefore⟩
    refine ⟨beq_iff_eq.mpr hlabel, before, after, hmembers, fun m hm => ?_⟩
    simpa using hbefore m hm

/-- A set that fails as a whole is reported as it is, and nothing else is. -/
theorem resolve_eq_failed {set' : Acknowledgements} :
    set.resolve request = .error (.failed set') ↔ set.isFailed = true ∧ set' = set := by
  unfold resolve
  by_cases hfailed : set.isFailed = true
  · simp [hfailed, eq_comm]
  · rw [if_neg hfailed]
    cases set.get? persistedLabel <;> simp [hfailed]

theorem resolve_eq_notPersisted :
    set.resolve request = .error .notPersisted
      ↔ set.isFailed = false ∧ ∀ m ∈ set.members, m.label ≠ persistedLabel := by
  rw [← get?_eq_none]
  unfold resolve
  by_cases hfailed : set.isFailed = true
  · simp [hfailed]
  · rw [if_neg hfailed]
    cases set.get? persistedLabel <;> simp [hfailed]

theorem resolve_eq_ok {r : CommandResponse} :
    set.resolve request = .ok r
      ↔ set.isFailed = false
        ∧ ∃ stored, IsFirstStored set.members stored
          ∧ r = ⟨SignalType.response request.type, stored.entity, request.path,
              stored.status, stored.payload, stored.headers⟩ := by
  simp only [← get?_persisted]
  unfold resolve
  by_cases hfailed : set.isFailed = true
  · simp [hfailed]
  · rw [if_neg hfailed]
    cases set.get? persistedLabel with
    | none => simp
    | some stored => simp [hfailed, eq_comm]

/-- The response to a command has the type of responses with the name of the
command, in which the criterion is exchanged as well. -/
theorem type_of_resolve {r : CommandResponse} (h : set.resolve request = .ok r) {g : Group}
    {name : String} (htype : request.type = SignalType.ofParts g "commands" name) :
    r.type = SignalType.ofParts g "responses" (SignalType.responseName name) := by
  obtain ⟨-, stored, -, rfl⟩ := resolve_eq_ok.mp h
  rw [htype, SignalType.response_ofParts]

/-- A request whose type does not hold the criterion of commands lends its type to
the response. -/
theorem type_of_resolve_of_not_infix {r : CommandResponse} (h : set.resolve request = .ok r)
    (htype : ¬ ".commands".toList <:+: request.type.toList) : r.type = request.type := by
  obtain ⟨-, stored, -, rfl⟩ := resolve_eq_ok.mp h
  exact SignalType.response_eq_self_iff.mpr htype

end Resolving

-- ================================================================= aggregating

variable {members : List Acknowledgement}

/-- Members that make a set fail: a single one with an error of the client or
the server, or several one of which is no success. -/
inductive Failing : List Acknowledgement → Prop where
  | single {m : Acknowledgement}
      (herror : 400 ≤ m.status.code.toNat ∧ m.status.code.toNat < 600) : Failing [m]
  | several {members : List Acknowledgement} (hmany : 2 ≤ members.length) {m : Acknowledgement}
      (hm : m ∈ members) (hbad : ¬ (200 ≤ m.status.code.toNat ∧ m.status.code.toNat < 300)) :
      Failing members

/-- The overall status is an error exactly if the members make the set fail. -/
theorem isFailure_overallStatus :
    (overallStatus members).isFailure = true ↔ Failing members := by
  match members with
  | [] =>
      refine ⟨nofun, fun h => ?_⟩
      cases h with
      | several hmany => exact absurd hmany (by decide)
  | [m] =>
      rw [show overallStatus [m] = m.status from rfl, Status.isFailure_iff]
      refine ⟨.single, fun h => ?_⟩
      cases h with
      | single herror => exact herror
      | several hmany => exact absurd hmany (by simp)
  | m :: m' :: rest =>
      have hmany : 2 ≤ (m :: m' :: rest).length := by simp
      have hoverall : overallStatus (m :: m' :: rest)
          = if (m :: m' :: rest).all (·.status.isSuccess) then .ok else .failedDependency := rfl
      rw [hoverall]
      by_cases hall : (m :: m' :: rest).all (·.status.isSuccess) = true
      · rw [if_pos hall]
        refine ⟨nofun, fun h => ?_⟩
        cases h with
        | several _ hm hbad =>
            exact absurd (Status.isSuccess_iff.mp (List.all_eq_true.mp hall _ hm)) hbad
      · rw [if_neg hall]
        refine ⟨fun _ => ?_, fun _ => rfl⟩
        obtain ⟨bad, hm, hbad⟩ := List.all_eq_false.mp (Bool.not_eq_true _ ▸ hall)
        exact .several hmany hm fun hgood => hbad (Status.isSuccess_iff.mpr hgood)

/-- Of members that do not make a set fail none has an error. -/
theorem not_isFailure_of_mem (h : ¬ Failing members) {m : Acknowledgement} (hm : m ∈ members) :
    m.status.isFailure = false := by
  by_contra herror
  rw [Bool.not_eq_false] at herror
  apply h
  by_cases hmany : 2 ≤ members.length
  · refine .several hmany hm fun hgood => ?_
    rw [Status.not_isFailure_of_isSuccess (Status.isSuccess_iff.mpr hgood)] at herror
    cases herror
  · have hone : members.length = 1 := by
      have := List.length_pos_of_mem hm
      omega
    obtain ⟨single, rfl⟩ := List.length_eq_one_iff.mp hone
    rw [List.mem_singleton.mp hm] at herror
    exact .single (Status.isFailure_iff.mp herror)

/-- Aggregated sets resolve as their members say. The set of any members

- fails as a whole, and is reported unchanged, exactly if a single member has
  an error of the client or the server, or several members are not all
  successes;
- otherwise has no persisted member exactly if none has the label;
- otherwise stands for the response with the entity, the status, the headers
  and the payload of the first persisted member, the path of the request and
  the type of responses to it;

and no such response has an error as its status. The type of a response to
commands of a group is that of its responses with the name of the command, which
is unchanged unless the criterion of commands occurs in it; a request whose type
does not name this criterion lends its type to the response. -/
theorem aggregated_sets_resolve (request : Signal) (entity : EntityId)
    (members : List Acknowledgement) (headers : Headers) :
    let result := (aggregate entity members headers).resolve request
    (∀ set, result = .error (.failed set)
      ↔ Failing members ∧ set = ⟨entity, overallStatus members, members, headers⟩)
    ∧ (result = .error .notPersisted
      ↔ ¬ Failing members ∧ ∀ m ∈ members, m.label ≠ persistedLabel)
    ∧ (∀ r, result = .ok r
      ↔ ¬ Failing members
        ∧ ∃ stored, IsFirstStored members stored
          ∧ r = ⟨SignalType.response request.type, stored.entity, request.path,
              stored.status, stored.payload, stored.headers⟩)
    ∧ (∀ r, result = .ok r → ¬ (400 ≤ r.status.code.toNat ∧ r.status.code.toNat < 600))
    ∧ (∀ r, result = .ok r → ∀ g name,
        request.type = SignalType.ofParts g "commands" name →
          r.type = SignalType.ofParts g "responses" (SignalType.responseName name)
          ∧ (SignalType.responseName name = name ↔ ¬ ".commands".toList <:+: name.toList))
    ∧ ∀ r, result = .ok r → ¬ ".commands".toList <:+: request.type.toList →
        r.type = request.type := by
  have hfailed : (aggregate entity members headers).isFailed = true ↔ Failing members :=
    isFailure_overallStatus
  have hsound : (aggregate entity members headers).isFailed = false ↔ ¬ Failing members := by
    rw [← hfailed, Bool.not_eq_true]
  refine ⟨fun set => ?_, ?_, fun r => ?_, fun r hr => ?_,
    fun r hr g name htype => ⟨type_of_resolve hr htype, SignalType.responseName_eq_self_iff⟩,
    fun r hr htype => type_of_resolve_of_not_infix hr htype⟩
  · rw [resolve_eq_failed, hfailed]
    rfl
  · rw [resolve_eq_notPersisted, hsound]
    rfl
  · rw [resolve_eq_ok, hsound]
    rfl
  · obtain ⟨hkept, stored, ⟨-, before, after, hmembers, -⟩, rfl⟩ := resolve_eq_ok.mp hr
    have hstored : stored ∈ members := by
      rw [show members = before ++ stored :: after from hmembers]
      simp
    rw [← Status.isFailure_iff, not_isFailure_of_mem (hsound.mp hkept) hstored]
    exact Bool.false_ne_true

end Acknowledgements

end DeviceTwin
