/-
The headers that signals leave with.

A signal on the live channel goes to a device without the server in
between, so the headers that only the server may vouch for are taken
out, and the channel is written down. Signals on other channels leave as
they are.
-/
import DeviceTwin.Signal

namespace DeviceTwin

/-- The headers that only the server may set. -/
def serverTrustedKeys : List String :=
  [Headers.readSubjectsKey, Headers.authorizationKey, Headers.responseRequiredKey]

/-- The headers marked as live, without those that only the server may set. -/
def Headers.forLive (h : Headers) : Headers :=
  serverTrustedKeys.foldl Headers.without (h.withChannel .live)

/-- The signal as it leaves on a channel. -/
def Signal.forChannel (channel : Channel) (s : Signal) : Signal :=
  match channel with
  | .live => s.withHeaders s.headers.forLive
  | .twin | .none => s

/-- The signal as a request leaves: with a correlation id, its own or else
`fresh`, and adjusted to its own channel. -/
def Signal.prepared (s : Signal) (fresh : String) : Signal :=
  let headers := s.headers.ensureCorrelationId fresh
  (s.withHeaders headers).forChannel headers.channel

-- ========================================================== the correlation id

theorem Headers.isSome_ensureCorrelationId (h : Headers) (fresh : String) :
    (h.ensureCorrelationId fresh).correlationId.isSome := by
  unfold ensureCorrelationId
  split
  case isTrue hown => exact hown
  case isFalse => simp [correlationId, withCorrelationId]

/-- Headers that leave on the live channel keep their correlation id. -/
theorem Headers.correlationId_forLive (h : Headers) :
    h.forLive.correlationId = h.correlationId := by
  have hkeys : correlationKey ≠ channelKey ∧ correlationKey ≠ readSubjectsKey
      ∧ correlationKey ≠ authorizationKey ∧ correlationKey ≠ responseRequiredKey := by
    decide
  obtain ⟨hchannel, hsubjects, hcontext, hrequired⟩ := hkeys
  simp only [correlationId, forLive, serverTrustedKeys, List.foldl_cons, List.foldl_nil,
    get?_without_of_ne hrequired, get?_without_of_ne hcontext, get?_without_of_ne hsubjects,
    withChannel, get?_set_of_ne hchannel]

/-- A prepared signal has a correlation id. -/
theorem Signal.isSome_correlationId_prepared (s : Signal) (fresh : String) :
    (s.prepared fresh).correlationId.isSome := by
  have hid := s.headers.isSome_ensureCorrelationId fresh
  cases hc : (s.headers.ensureCorrelationId fresh).channel with
  | live => simpa [prepared, forChannel, correlationId, hc, Headers.correlationId_forLive] using hid
  | twin | none => simpa [prepared, forChannel, correlationId, hc] using hid

end DeviceTwin
