/-
What a reply means to the caller that waits for it, and which of the
caller's continuations is run.

A caller leaves two continuations behind: one for the signal that it
expects, one for the signal by which it is refused. The interpretation runs
them in any monad (`Request.interpretWith`). The client runs it in the
plainest one and keeps the result (`Request.interpret`), and here it is run
with continuations that note what they are handed (`Request.handed`), so the
runs that are counted are runs of the same program.

`Conclusion` lists the four ways in which a reply can end a call. The order of
the checks decides between them: a refusal goes first, even if it is a set of
acknowledgements; a set is resolved next, even if sets are what is expected;
what is left is compared with what is expected.
-/
import DeviceTwin.Client.CallError
import DeviceTwin.Proofs.Resolution

namespace DeviceTwin

-- ================================================================ expectations

namespace Expected

/-- Asking for any signal, or for the kind of this one. -/
def Covers (e : Expected) (s : Signal) : Prop := e = .any ∨ e = .kind s.kind

theorem accepts_iff {e : Expected} {s : Signal} : e.accepts s = true ↔ e.Covers s := by
  cases e with
  | kind k => simp [accepts, Covers, eq_comm]
  | any => simp [accepts, Covers]

end Expected

namespace Request

-- =================================================== what a reply stands for

/-- A reply stands for a signal: a set of acknowledgements for the response
that it resolves into, and every other reply for itself. -/
inductive StandsFor (request : Signal) : Signal → Signal → Prop where
  | itself {reply : Signal} (hkind : reply.kind ≠ .acknowledgements) :
      StandsFor request reply reply
  | response {set : Acknowledgements} {resp : CommandResponse}
      (hresolve : set.resolve request = .ok resp) :
      StandsFor request (.acknowledgements set) (.response resp)

/-- A signal is made of a reply if and only if the reply stands for it. -/
theorem synthesize_eq_ok {request reply s : Signal} :
    synthesize request reply = .ok s ↔ StandsFor request reply s := by
  constructor
  · intro h
    cases reply with
    | acknowledgements set =>
        simp only [synthesize] at h
        cases hresolve : set.resolve request with
        | error e =>
            rw [hresolve] at h
            cases h
        | ok resp =>
            rw [hresolve] at h
            cases h
            exact .response hresolve
    | command | response | error | acknowledgement | event =>
        cases h
        exact .itself nofun
  · intro h
    cases h with
    | response hresolve => simp only [synthesize, hresolve]
    | itself hkind =>
        cases reply with
        | acknowledgements set => exact absurd rfl hkind
        | command | response | error | acknowledgement | event => rfl

/-- None is made only of a set that does not resolve, and the error says why. -/
theorem synthesize_eq_error {request reply : Signal} {e : CallError} :
    synthesize request reply = .error e
      ↔ ∃ set why, reply = .acknowledgements set ∧ set.resolve request = .error why
        ∧ e = .ofResolveError why := by
  constructor
  · intro h
    cases reply with
    | acknowledgements set =>
        simp only [synthesize] at h
        cases hresolve : set.resolve request with
        | error why =>
            rw [hresolve] at h
            cases h
            exact ⟨set, why, rfl, hresolve, rfl⟩
        | ok resp =>
            rw [hresolve] at h
            cases h
    | command | response | error | acknowledgement | event => cases h
  · rintro ⟨set, why, rfl, hresolve, rfl⟩
    simp only [synthesize, hresolve]

-- =============================================================== continuations

/-- A run of one of the continuations, with what it was handed. -/
inductive Handed where
  | success (s : Signal)
  | refusal (s : Signal)
  deriving DecidableEq

variable {ρ : Type}

/-- The continuations of a request, each of which notes that it was run. -/
def noting (r : Request) (onSuccess : Signal → ρ) : Continuations (StateM (List Handed)) ρ where
  onSuccess s := do
    modify (· ++ [.success s])
    return onSuccess s
  onRefusal s := do
    modify (· ++ [.refusal s])
    return r.onRefusal s

/-- What a call returns on a reply, and which continuations were run for it. -/
def handed (r : Request) (onSuccess : Signal → ρ) (reply : Signal) :
    Except CallError ρ × List Handed :=
  (r.interpretWith (r.noting onSuccess) reply).run []

-- =================================================================== conclusions

variable {r : Request} {onSuccess : Signal → ρ} {reply : Signal}

section anyMonad

variable {m : Type → Type} [Monad m] {k : Continuations m ρ}

/-- A refusal runs the continuation for refusals, and no other. -/
theorem interpretWith_of_refusal (hrefusal : r.refusal.Covers reply) :
    r.interpretWith k reply = do return .error (← k.onRefusal reply) :=
  if_pos (Expected.accepts_iff.mpr hrefusal)

/-- A reply that stands for nothing runs none. -/
theorem interpretWith_of_error (hrefusal : ¬ r.refusal.Covers reply) {e : CallError}
    (he : synthesize r.signal reply = .error e) :
    r.interpretWith k reply = return .error e := by
  rw [interpretWith, if_neg (mt Expected.accepts_iff.mp hrefusal), he]

/-- A reply that stands for what is expected runs the continuation for that, and no
other. -/
theorem interpretWith_of_expected (hrefusal : ¬ r.refusal.Covers reply) {s : Signal}
    (hs : synthesize r.signal reply = .ok s) (hexpected : r.expected.Covers s) :
    r.interpretWith k reply = do return .ok (← k.onSuccess s) := by
  rw [interpretWith, if_neg (mt Expected.accepts_iff.mp hrefusal), hs]
  exact if_pos (Expected.accepts_iff.mpr hexpected)

/-- A reply that stands for something else runs none. -/
theorem interpretWith_of_unexpected (hrefusal : ¬ r.refusal.Covers reply) {s : Signal}
    (hs : synthesize r.signal reply = .ok s) (hexpected : ¬ r.expected.Covers s) :
    r.interpretWith k reply = return .error (.mismatch r.expected.name s) := by
  rw [interpretWith, if_neg (mt Expected.accepts_iff.mp hrefusal), hs]
  exact if_neg (mt Expected.accepts_iff.mp hexpected)

end anyMonad

/-- A refusal is noted once, and the call fails with what its continuation returns. -/
theorem handed_of_refusal (hrefusal : r.refusal.Covers reply) :
    r.handed onSuccess reply = (.error (r.onRefusal reply), [.refusal reply]) := by
  rw [handed, interpretWith_of_refusal hrefusal]
  rfl

/-- Of a reply that stands for nothing nothing is noted. -/
theorem handed_of_error (hrefusal : ¬ r.refusal.Covers reply) {e : CallError}
    (he : synthesize r.signal reply = .error e) : r.handed onSuccess reply = (.error e, []) := by
  rw [handed, interpretWith_of_error hrefusal he]
  rfl

/-- A success is noted once, and the call returns what its continuation returns. -/
theorem handed_of_expected (hrefusal : ¬ r.refusal.Covers reply) {s : Signal}
    (hs : synthesize r.signal reply = .ok s) (hexpected : r.expected.Covers s) :
    r.handed onSuccess reply = (.ok (onSuccess s), [.success s]) := by
  rw [handed, interpretWith_of_expected hrefusal hs hexpected]
  rfl

/-- Of a reply that stands for something else nothing is noted either. -/
theorem handed_of_unexpected (hrefusal : ¬ r.refusal.Covers reply) {s : Signal}
    (hs : synthesize r.signal reply = .ok s) (hexpected : ¬ r.expected.Covers s) :
    r.handed onSuccess reply
      = (.error (.typeMismatch r.expected.name s.kind.name s.type), []) := by
  rw [handed, interpretWith_of_unexpected hrefusal hs hexpected]
  rfl

/-- The ways in which a reply ends a call: what the call returns, and which
continuations are run. -/
inductive Conclusion (r : Request) (onSuccess : Signal → ρ) (reply : Signal) :
    Except CallError ρ × List Handed → Prop where
  | refused (hrefusal : r.refusal.Covers reply) :
      Conclusion r onSuccess reply (.error (r.onRefusal reply), [.refusal reply])
  | expected {s : Signal} (hrefusal : ¬ r.refusal.Covers reply)
      (hstands : StandsFor r.signal reply s) (hexpected : r.expected.Covers s) :
      Conclusion r onSuccess reply (.ok (onSuccess s), [.success s])
  | unresolved {set : Acknowledgements} {why : ResolveError} (hrefusal : ¬ r.refusal.Covers reply)
      (hreply : reply = .acknowledgements set) (hresolve : set.resolve r.signal = .error why) :
      Conclusion r onSuccess reply (.error (.ofResolveError why), [])
  | unexpected {s : Signal} (hrefusal : ¬ r.refusal.Covers reply)
      (hstands : StandsFor r.signal reply s) (hexpected : ¬ r.expected.Covers s) :
      Conclusion r onSuccess reply
        (.error (.typeMismatch r.expected.name s.kind.name s.type), [])

/-- A reply ends a call in one of these ways, and in no other. -/
theorem handed_eq_iff {out : Except CallError ρ × List Handed} :
    r.handed onSuccess reply = out ↔ Conclusion r onSuccess reply out := by
  constructor
  · rintro rfl
    by_cases hrefusal : r.refusal.Covers reply
    · rw [handed_of_refusal hrefusal]
      exact .refused hrefusal
    · cases hreply : synthesize r.signal reply with
      | error e =>
          rw [handed_of_error hrefusal hreply]
          obtain ⟨set, why, hset, hresolve, rfl⟩ := synthesize_eq_error.mp hreply
          exact .unresolved hrefusal hset hresolve
      | ok s =>
          have hstands := synthesize_eq_ok.mp hreply
          by_cases hexpected : r.expected.Covers s
          · rw [handed_of_expected hrefusal hreply hexpected]
            exact .expected hrefusal hstands hexpected
          · rw [handed_of_unexpected hrefusal hreply hexpected]
            exact .unexpected hrefusal hstands hexpected
  · intro h
    cases h with
    | refused hrefusal => exact handed_of_refusal hrefusal
    | expected hrefusal hstands hexpected =>
        exact handed_of_expected hrefusal (synthesize_eq_ok.mpr hstands) hexpected
    | unresolved hrefusal hreply hresolve =>
        exact handed_of_error hrefusal
          (synthesize_eq_error.mpr ⟨_, _, hreply, hresolve, rfl⟩)
    | unexpected hrefusal hstands hexpected =>
        exact handed_of_unexpected hrefusal (synthesize_eq_ok.mpr hstands) hexpected

namespace Conclusion

variable {out : Except CallError ρ × List Handed} {s : Signal}

/-- At most one continuation is run, at most once. -/
theorem length_le (h : Conclusion r onSuccess reply out) : out.2.length ≤ 1 := by
  cases h <;> simp

/-- A refusal is handed to its continuation only if it is one, and as it came. -/
theorem of_refusal (h : Conclusion r onSuccess reply out) (hs : .refusal s ∈ out.2) :
    r.refusal.Covers reply ∧ s = reply := by
  cases h with
  | refused hrefusal => exact ⟨hrefusal, by simpa using hs⟩
  | expected | unresolved | unexpected => simp at hs

/-- What is handed to the other is expected, and the reply stands for it. -/
theorem of_success (h : Conclusion r onSuccess reply out) (hs : .success s ∈ out.2) :
    ¬ r.refusal.Covers reply ∧ StandsFor r.signal reply s ∧ r.expected.Covers s
      ∧ out.1 = .ok (onSuccess s) := by
  cases h with
  | expected hrefusal hstands hexpected =>
      obtain rfl : s = _ := by simpa using hs
      exact ⟨hrefusal, hstands, hexpected, rfl⟩
  | refused | unresolved | unexpected => simp at hs

/-- Where no continuation is run, the error says why. -/
theorem of_nil (h : Conclusion r onSuccess reply out) (hout : out.2 = []) :
    (∃ set why, reply = .acknowledgements set ∧ set.resolve r.signal = .error why
      ∧ out.1 = .error (.ofResolveError why))
    ∨ ∃ s, StandsFor r.signal reply s
      ∧ out.1 = .error (.typeMismatch r.expected.name s.kind.name s.type) := by
  cases h with
  | unresolved _ hreply hresolve => exact .inl ⟨_, _, hreply, hresolve, rfl⟩
  | unexpected _ hstands _ => exact .inr ⟨_, hstands, rfl⟩
  | refused | expected => cases hout

end Conclusion

/-- Noting which continuations are run changes nothing of what a call returns. -/
theorem handed_fst : (r.handed onSuccess reply).1 = (r.interpret reply).map onSuccess := by
  by_cases hrefusal : r.refusal.Covers reply
  · rw [handed_of_refusal hrefusal, interpret, interpretWith_of_refusal hrefusal]
    rfl
  · cases hreply : synthesize r.signal reply with
    | error e =>
        rw [handed_of_error hrefusal hreply, interpret, interpretWith_of_error hrefusal hreply]
        rfl
    | ok s =>
        by_cases hexpected : r.expected.Covers s
        · rw [handed_of_expected hrefusal hreply hexpected, interpret,
            interpretWith_of_expected hrefusal hreply hexpected]
          rfl
        · rw [handed_of_unexpected hrefusal hreply hexpected, interpret,
            interpretWith_of_unexpected hrefusal hreply hexpected]
          rfl

/-- What reaches the continuation for success, spelled out. -/
theorem stands_and_covers_iff {request : Signal} {e : Expected} {s : Signal} :
    (StandsFor request reply s ∧ e.Covers s)
      ↔ (reply.kind ≠ .acknowledgements ∧ e.Covers reply ∧ s = reply)
        ∨ ∃ set resp, reply = .acknowledgements set ∧ set.resolve request = .ok resp
          ∧ (e = .kind .response ∨ e = .any) ∧ s = .response resp := by
  constructor
  · rintro ⟨hstands, hcovers⟩
    cases hstands with
    | itself hkind => exact .inl ⟨hkind, hcovers, rfl⟩
    | response hresolve => exact .inr ⟨_, _, rfl, hresolve, hcovers.symm, rfl⟩
  · rintro (⟨hkind, hcovers, rfl⟩ | ⟨set, resp, rfl, hresolve, hcovers, rfl⟩)
    · exact ⟨.itself hkind, hcovers⟩
    · exact ⟨.response hresolve, hcovers.symm⟩

end Request

end DeviceTwin
