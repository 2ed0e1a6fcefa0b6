/-
Signals and their envelopes are routed alike.

A call waits under the key of the signal that it sends, and what comes in is
looked up under the key of its envelope, before anybody knows which signal is
in it. That the two meet rests on the headers. An envelope has those of its
signal (`Envelope.headers_ofSignal`), and a signal has those of its envelope,
but for the mark of a topic on the live channel, which is put where no channel
is named (`Envelope.get?_signalHeaders`). The mark has a key of its own, so
routing cannot tell the two apart (`signals_and_envelopes_are_routed_alike`).
-/
import DeviceTwin.Client.Dispatcher
import DeviceTwin.Proofs.Envelope.Received

namespace DeviceTwin

-- =================================================================== headers

namespace Envelope

/-- A signal has the headers of its envelope, and the mark of a topic on the live
channel where they name no channel. -/
theorem get?_signalHeaders (e : Envelope) (key : String) :
    e.signalHeaders.get? key
      = if key = Headers.channelKey ∧ e.topic.channel = .live
          ∧ e.headers.get? Headers.channelKey = none
        then some Channel.live.name else e.headers.get? key := by
  have habsent : e.headers.contains Headers.channelKey = false
      ↔ e.headers.get? Headers.channelKey = none := by
    rw [Headers.contains, Option.isSome_eq_false_iff, Option.isNone_iff_eq_none]
  unfold signalHeaders
  split
  case isTrue hmark =>
    rw [Headers.withChannel]
    by_cases hkey : key = Headers.channelKey
    · rw [if_pos ⟨hkey, hmark.1, habsent.mp hmark.2⟩, hkey, Headers.get?_set_self]
    · rw [if_neg fun h => hkey h.1, Headers.get?_set_of_ne hkey]
  case isFalse hmark =>
    rw [if_neg fun h => hmark ⟨h.2.1, habsent.mpr h.2.2⟩]

theorem correlationId_ofSignal (s : Signal) : (ofSignal s).correlationId = s.correlationId :=
  congrArg Headers.correlationId (headers_ofSignal s)

theorem correlationId_of_toSignal {e : Envelope} {s : Signal} (h : e.toSignal = .ok s) :
    s.correlationId = e.correlationId := by
  have hkey : Headers.correlationKey ≠ Headers.channelKey := by decide
  rw [Signal.correlationId, headers_of_toSignal h, Headers.correlationId, get?_signalHeaders,
    if_neg fun hmark => hkey hmark.1]
  rfl

end Envelope

-- =================================================================== routing

/-- A message comes back unless somebody waits under its key. -/
theorem Correlator.publish_snd {μ : Type} (c : Correlator μ) (key : Option String) (m : μ) :
    (c.publish key m).2 = if key.any c.isPending then none else some m := by
  cases key with
  | none => rfl
  | some key =>
      rw [Option.any_some, isPending, publish, Option.bind_some]
      cases c.pending? key with
      | none => rfl
      | some e => rfl

namespace Envelope

/-- Signals and their envelopes are routed alike, whichever becomes the other.

- The envelope of a signal has the headers of the signal, and so its key.
- A signal in an envelope has the headers of the envelope, and besides them the name
  of the live channel exactly if the topic is on that channel and the envelope names
  none. So it has the key of the envelope.
- When the envelope comes in a frame, it is published under the key of its signal:
  it is taken for a call that waits under this key, or else it is the signal that
  is passed on. -/
theorem signals_and_envelopes_are_routed_alike :
    (∀ s : Signal, (ofSignal s).headers = s.headers
      ∧ (ofSignal s).correlationId = s.correlationId)
    ∧ ∀ (e : Envelope) (s : Signal), e.toSignal = .ok s →
      (∀ key, s.headers.get? key
        = if key = "channel" ∧ e.topic.channel = .live ∧ e.headers.get? "channel" = none
          then some "live" else e.headers.get? key)
      ∧ s.correlationId = e.correlationId
      ∧ ∀ (d : Dispatcher) (f : Frame), f.decode = .ok e →
        d.take f
          = ({ d with correlator := (d.correlator.publish s.correlationId e).1 },
            .ok (if s.correlationId.any d.correlator.isPending then none else some s)) := by
  refine ⟨fun s => ⟨headers_ofSignal s, correlationId_ofSignal s⟩, fun e s hs => ?_⟩
  have hkey := correlationId_of_toSignal hs
  refine ⟨fun key => ?_, hkey, fun d f hf => ?_⟩
  · rw [headers_of_toSignal hs]
    exact e.get?_signalHeaders key
  · have hback := d.correlator.publish_snd e.correlationId e
    rw [hkey]
    by_cases hwaits : e.correlationId.any d.correlator.isPending = true
    · rw [if_pos hwaits] at hback ⊢
      simp only [Dispatcher.take, hf, hback]
    · rw [if_neg hwaits] at hback ⊢
      simp only [Dispatcher.take, hf, hback, hs]
      rfl

end Envelope

end DeviceTwin
