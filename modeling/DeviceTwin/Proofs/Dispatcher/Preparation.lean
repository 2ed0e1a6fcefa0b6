/-
What becomes of a request before it leaves.

Only its headers change. They get a correlation id if they have none, so
nobody has to wait for a reply that nothing could be matched with; and on the
live channel they lose what only the server may set. The two do not meet: the
correlation id is none of the keys of the live channel, so it does not matter
which is done first (`Headers.ensureCorrelationId_forLive`) nor how often
(`Signal.prepared_prepared`). That is why a handle may adjust a signal before
it is prepared.
-/
import DeviceTwin.Proofs.Dispatcher.Channel

namespace DeviceTwin

namespace Headers

-- ========================================================== the correlation id

theorem get?_ensureCorrelationId (h : Headers) (fresh key : String) :
    (h.ensureCorrelationId fresh).get? key
      = if key = correlationKey then some (h.correlationId.getD fresh) else h.get? key := by
  unfold ensureCorrelationId
  cases hid : h.correlationId with
  | some id =>
      rw [Option.isSome_some, if_pos rfl, Option.getD_some]
      split
      case isTrue hkey =>
        rw [hkey]
        exact hid
      case isFalse => rfl
  | none =>
      rw [Option.isSome_none, if_neg Bool.false_ne_true, Option.getD_none, withCorrelationId]
      split
      case isTrue hkey => rw [hkey, get?_set_self]
      case isFalse hkey => exact get?_set_of_ne hkey ..

/-- Headers that have a correlation id need none. -/
theorem ensureCorrelationId_eq_self {h : Headers} (hid : h.correlationId.isSome) (fresh : String) :
    h.ensureCorrelationId fresh = h := if_pos hid

/-- It does not matter whether headers get a correlation id before they are marked
as live or after. -/
theorem ensureCorrelationId_forLive (h : Headers) (fresh : String) :
    h.forLive.ensureCorrelationId fresh = (h.ensureCorrelationId fresh).forLive := by
  apply ext_get?
  intro key
  rw [get?_ensureCorrelationId, get?_forLive, get?_forLive, correlationId_forLive]
  by_cases hid : key = correlationKey
  · have hother : correlationKey ∉ serverTrustedKeys ∧ correlationKey ≠ channelKey := by decide
    rw [hid, if_pos rfl, if_neg hother.1, withChannel, get?_set_of_ne hother.2,
      get?_ensureCorrelationId, if_pos rfl]
  · rw [if_neg hid]
    by_cases hmark : key = channelKey
    · rw [hmark, get?_channel_withChannel, get?_channel_withChannel]
    · rw [withChannel, withChannel, get?_set_of_ne hmark, get?_set_of_ne hmark,
        get?_ensureCorrelationId, if_neg hid]

/-- Headers are live because they say so. -/
theorem get?_channel_of_live {h : Headers} (hlive : h.channel = .live) :
    h.get? channelKey = some Channel.live.name := by
  rcases h.channel_cases with ⟨c, hname, hc⟩ | ⟨-, htwin⟩
  · rw [hname, ← hc, hlive]
  · rw [htwin] at hlive
    cases hlive

theorem forLive_forLive (h : Headers) : h.forLive.forLive = h.forLive :=
  forLive_eq_self h.get?_channel_forLive h.untrusted_forLive

end Headers

-- ==================================================================== signals

namespace Signal

variable {s : Signal}

theorem withHeaders_withHeaders (s : Signal) (h k : Headers) :
    (s.withHeaders h).withHeaders k = s.withHeaders k := by
  cases s <;> rfl

theorem channel_withHeaders_ensureCorrelationId (s : Signal) (fresh : String) :
    (s.withHeaders (s.headers.ensureCorrelationId fresh)).channel = s.channel := by
  rw [channel, headers_withHeaders, Headers.channel, Headers.get?_channel_ensureCorrelationId]
  rfl

theorem prepared_of_live (hlive : s.channel = .live) (fresh : String) :
    s.prepared fresh = s.withHeaders (s.headers.ensureCorrelationId fresh).forLive := by
  rw [Emission.prepared_eq_leaving, leaving, channel_withHeaders_ensureCorrelationId, hlive,
    forChannel, headers_withHeaders, withHeaders_withHeaders]

theorem prepared_of_not_live (hlive : s.channel ≠ .live) (fresh : String) :
    s.prepared fresh = s.withHeaders (s.headers.ensureCorrelationId fresh) := by
  rw [Emission.prepared_eq_leaving, leaving, channel_withHeaders_ensureCorrelationId]
  cases hc : s.channel with
  | live => exact absurd hc hlive
  | twin | none => rfl

theorem get?_prepared_of_live (hlive : s.channel = .live) (fresh key : String) :
    (s.prepared fresh).headers.get? key
      = if key ∈ serverTrustedKeys then none
        else if key = Headers.correlationKey then some (s.correlationId.getD fresh)
        else s.headers.get? key := by
  rw [prepared_of_live hlive, headers_withHeaders, Headers.get?_forLive]
  by_cases htrusted : key ∈ serverTrustedKeys
  · rw [if_pos htrusted, if_pos htrusted]
  · rw [if_neg htrusted, if_neg htrusted]
    by_cases hmark : key = Headers.channelKey
    · have hother : Headers.channelKey ≠ Headers.correlationKey := by decide
      rw [hmark, if_neg hother, Headers.get?_channel_withChannel]
      exact (Headers.get?_channel_of_live hlive).symm
    · rw [Headers.withChannel, Headers.get?_set_of_ne hmark, Headers.get?_ensureCorrelationId]
      rfl

theorem get?_prepared_of_not_live (hlive : s.channel ≠ .live) (fresh key : String) :
    (s.prepared fresh).headers.get? key
      = if key = Headers.correlationKey then some (s.correlationId.getD fresh)
        else s.headers.get? key := by
  rw [prepared_of_not_live hlive, headers_withHeaders, Headers.get?_ensureCorrelationId]
  rfl

/-- A request keeps everything but its headers. -/
theorem withHeaders_prepared (s : Signal) (fresh : String) :
    (s.prepared fresh).withHeaders s.headers = s := by
  by_cases hlive : s.channel = .live
  · rw [prepared_of_live hlive, withHeaders_withHeaders, withHeaders_headers]
  · rw [prepared_of_not_live hlive, withHeaders_withHeaders, withHeaders_headers]

theorem correlationId_prepared (s : Signal) (fresh : String) :
    (s.prepared fresh).correlationId = some (s.correlationId.getD fresh) := by
  by_cases hlive : s.channel = .live
  · have htrusted : Headers.correlationKey ∉ serverTrustedKeys := by decide
    rw [correlationId, Headers.correlationId, get?_prepared_of_live hlive, if_neg htrusted,
      if_pos rfl]
  · rw [correlationId, Headers.correlationId, get?_prepared_of_not_live hlive, if_pos rfl]

/-- A signal that leaves on the live channel and is live has been adjusted. -/
theorem forLive_prepared (hlive : s.channel = .live) (fresh : String) :
    (s.prepared fresh).headers.forLive = (s.prepared fresh).headers := by
  rw [prepared_of_live hlive, headers_withHeaders, Headers.forLive_forLive]

/-- What has been prepared is prepared. -/
theorem prepared_prepared (s : Signal) (fresh other : String) :
    (s.prepared fresh).prepared other = s.prepared fresh := by
  have hid := Headers.ensureCorrelationId_eq_self (s.isSome_correlationId_prepared fresh) other
  have hchannel := s.channel_prepared fresh
  by_cases hlive : s.channel = .live
  · rw [prepared_of_live (hchannel.trans hlive), hid, forLive_prepared hlive, withHeaders_headers]
  · rw [prepared_of_not_live (hchannel.trans_ne hlive), hid, withHeaders_headers]

/-- Adjusting once is adjusting any number of times. -/
theorem forChannel_live_iterate (s : Signal) (n : Nat) :
    (forChannel .live)^[n + 1] s = s.forChannel .live := by
  have hfixed : (s.forChannel .live).forChannel .live = s.forChannel .live := by
    apply forChannel_live_eq_self
    rw [forChannel, headers_withHeaders, Headers.forLive_forLive]
  rw [Function.iterate_succ_apply, Function.iterate_fixed hfixed]

/-- What a handle has adjusted to the live channel is prepared as a live signal. -/
theorem prepared_forChannel_live (s : Signal) (fresh : String) :
    (s.forChannel .live).prepared fresh
      = s.withHeaders (s.headers.ensureCorrelationId fresh).forLive := by
  have hlive : (s.forChannel .live).channel = .live := by
    rw [channel_forChannel, if_pos rfl]
  rw [prepared_of_live hlive, forChannel, headers_withHeaders, withHeaders_withHeaders,
    Headers.ensureCorrelationId_forLive, Headers.forLive_forLive]

end Signal

-- =================================================================== requests

/-- A request that has a correlation id ends as it starts because the table is
closed or because its id is taken, or it goes on. -/
theorem Dispatcher.mem_finished_enter {d : Dispatcher} {now : Nat} {r : Request} {key : String}
    (hkey : r.signal.correlationId = some key) {x : Nat × CallResult}
    (hx : x ∈ (d.enter now r).finished) :
    x ∈ d.finished ∨ x = (d.nextCall, .error .closed)
      ∨ x = (d.nextCall, .error (.alreadyPending key)) := by
  obtain ⟨-, henter⟩ | ⟨-, henter⟩ | ⟨-, -, henter⟩ := d.enter_cases hkey now
  · rw [henter] at hx
    rcases List.mem_append.mp hx with hold | hnew
    · exact .inl hold
    · exact .inr (.inl (List.mem_singleton.mp hnew))
  · rw [henter] at hx
    rcases List.mem_append.mp hx with hold | hnew
    · exact .inl hold
    · exact .inr (.inr (List.mem_singleton.mp hnew))
  · rw [henter] at hx
    exact .inl hx

/-- What becomes of a signal that is sent as a request, whatever it is.

- Nothing changes but its headers.
- It has a correlation id: its own, or else the fresh one. So no request ends, in
  whatever state of the client, because it has none.
- If its headers name the live channel, they still do, they have no headers that
  only the server may set, and nothing else changes in them but for the correlation
  id; otherwise nothing changes in them but for the correlation id.
- To prepare it again changes nothing, even with another fresh id.
- To adjust it to the live channel before, once or several times, always leads to
  the same, and if it is on this channel to what it is prepared to anyway. -/
theorem requests_leave_prepared (s : Signal) (fresh : String) :
    let sent := s.prepared fresh
    sent.withHeaders s.headers = s
    ∧ sent.correlationId = some (s.correlationId.getD fresh)
    ∧ (∀ (d : Dispatcher) (now : Nat) (r : Request) (id : Nat), r.signal = s →
        (id, .error (.protocol (.missingField "correlation-id")))
          ∈ (d.enter now (r.prepared fresh)).finished →
        (id, .error (.protocol (.missingField "correlation-id"))) ∈ d.finished)
    ∧ (s.channel = .live →
        sent.headers.get? "channel" = some "live"
        ∧ (∀ key ∈ ["read-subjects", "authorization-context", "response-required"],
            sent.headers.contains key = false)
        ∧ ∀ key ∉ ["read-subjects", "authorization-context", "response-required"],
            key ≠ "correlation-id" → sent.headers.get? key = s.headers.get? key)
    ∧ (s.channel ≠ .live →
        ∀ key, key ≠ "correlation-id" → sent.headers.get? key = s.headers.get? key)
    ∧ (∀ other, sent.prepared other = sent)
    ∧ (∀ n, ((Signal.forChannel .live)^[n + 1] s).prepared fresh
        = (s.forChannel .live).prepared fresh)
    ∧ (s.channel = .live → (s.forChannel .live).prepared fresh = sent) := by
  intro sent
  have hid : sent.correlationId = some (s.correlationId.getD fresh) :=
    s.correlationId_prepared fresh
  refine ⟨s.withHeaders_prepared fresh, hid, ?_, ?_, ?_, s.prepared_prepared fresh, ?_, ?_⟩
  · intro d now r id hr hmem
    subst hr
    rcases Dispatcher.mem_finished_enter (r := r.prepared fresh) hid hmem with
      hold | hclosed | htaken
    · exact hold
    · cases hclosed
    · cases htaken
  · intro hlive
    have hkeys := Signal.get?_prepared_of_live hlive fresh
    refine ⟨?_, ?_, ?_⟩
    · rw [hkeys]
      exact Headers.get?_channel_of_live hlive
    · intro key htrusted
      change key ∈ serverTrustedKeys at htrusted
      rw [Headers.contains, hkeys, if_pos htrusted]
      rfl
    · intro key htrusted hother
      change key ∉ serverTrustedKeys at htrusted
      change key ≠ Headers.correlationKey at hother
      rw [hkeys, if_neg htrusted, if_neg hother]
  · intro hlive key hother
    change key ≠ Headers.correlationKey at hother
    rw [Signal.get?_prepared_of_not_live hlive, if_neg hother]
  · intro n
    rw [s.forChannel_live_iterate]
  · intro hlive
    rw [s.prepared_forChannel_live, ← Signal.prepared_of_live hlive]

end DeviceTwin
