/-
Headers that only the server may set stay off the live channel.

A signal that leaves has been adjusted to the channel that its headers
name, so if that is the live one the headers of the server are gone. What
the other end makes of the frame could still be another channel: the text
of the topic may be cut in other places than it was put together, and a
topic on the live channel marks a signal whose headers name none. Neither
makes a signal live that was not (`live_of_rereads`), because a topic is
never read as live unless it was (`Topic.live_of_parse_text`), and headers
come back as they were written.

So a frame of an emission is `Guarded`, and by induction over what the client
does so is every frame that is handed over or received at the other end, unless
somebody else has written it (`trusted_headers_never_leave_live`).
-/
import DeviceTwin.Proofs.Dispatcher.Emission
import DeviceTwin.Proofs.Frame
import DeviceTwin.Proofs.Outgoing

namespace DeviceTwin

-- ==================================================================== signals

/-- A signal that leaves on the live channel has no headers that only the
server may set. -/
theorem Signal.untrusted_leaving {s : Signal} (hlive : s.leaving.channel = .live) :
    s.leaving.headers.Untrusted := by
  cases hc : s.channel with
  | live =>
      have hleaving : s.leaving.headers = s.headers.forLive := by
        simp only [leaving, hc, forChannel, headers_withHeaders]
      rw [hleaving]
      exact s.headers.untrusted_forLive
  | twin | none =>
      have hleaving : s.leaving = s := by
        simp only [leaving, hc, forChannel]
      rw [hleaving, hc] at hlive
      cases hlive

-- ==================================================================== frames

namespace Envelope

/-- What is read as a signal on the live channel was written as one. -/
theorem live_of_rereads {m : Medium} {s s' : Signal} {e' : Envelope}
    (h : Rereads m (ofSignal s) e') (hs' : e'.toSignal = .ok s')
    (hlive : s'.channel = .live) : s.channel = .live := by
  have hheaders : e'.headers = s.headers := h.headers.trans (headers_ofSignal s)
  have hread := headers_of_toSignal hs'
  unfold signalHeaders at hread
  split at hread
  case isTrue hmark =>
    -- the topic alone says that it is live
    have htopic := Topic.live_of_parse_text h.topic hmark.1
    rw [channel_ofSignal] at htopic
    exact channelFor_eq_live htopic
  case isFalse =>
    rw [Signal.channel, hread, hheaders] at hlive
    exact hlive

end Envelope

namespace Frame

/-- If the frame holds a signal on the live channel, its envelope has no
headers that only the server may set. -/
def Guarded (f : Frame) : Prop :=
  ∀ e s, f.decode = .ok e → e.toSignal = .ok s → s.channel = .live →
    e.headers.Untrusted

/-- The frame of an emission is guarded. -/
theorem guarded_frame (x : Emission) (F : WireFormat) (hsize : (x.frame F).Sized) :
    (x.frame F).Guarded := by
  intro e s he hs hlive
  obtain ⟨sent, hsent⟩ := x.exists_leaving
  unfold Emission.frame at hsize he
  rw [hsent] at hsize he
  have hreads := F.rereads_of_decode (F.fits_of_sized hsize) he
  have hleaving := Envelope.live_of_rereads hreads hs hlive
  rw [hreads.headers, Envelope.headers_ofSignal]
  exact Signal.untrusted_leaving hleaving

end Frame

-- ======================================================================= runs

namespace Dispatcher

/-- The frame that an operation hands over as it was given. -/
def Operation.given? : Operation → Option Frame
  | emitFrame _ f | trySend f => some f
  | request .. | cancel .. | inbound .. | receive .. | disconnect _ | shutdown _
  | settle _ => none

variable {config : Config} {d : Dispatcher} {f : Frame}

/-- Nobody gives the frame to the client as it is, to be handed over. Frames that are
given may be written by anybody. -/
def Activity.Signals (f : Frame) (a : Activity) : Prop :=
  ∀ op, a = .other op → op.given? ≠ some f

/-- One activity hands over guarded frames. -/
theorem guarded_of_handed {a : Activity} (ha : a.Signals f)
    (hf : f ∈ d.handed (a.operation d.format)) (hsize : f.Sized) : f.Guarded := by
  have hemission : ∀ (x : Emission) now, f ∈ d.handed (x.operation d.format now) → f.Guarded := by
    intro x now hf
    rw [eq_frame_of_handed hf] at hsize ⊢
    exact Frame.guarded_frame x d.format hsize
  cases a with
  | send now x => exact hemission x now hf
  | other op =>
      cases op with
      | request now fresh r => exact hemission (.request fresh r) now hf
      | emitFrame | trySend =>
          obtain rfl := List.mem_singleton.mp hf
          exact absurd rfl (ha _ rfl)
      | cancel | inbound | receive | disconnect | shutdown | settle => cases hf

/-- So do activities one after the other. -/
theorem Sound.guarded_of_handedIn {F : WireFormat} (activities : List Activity) :
    ∀ {d : Dispatcher}, Sound d → d.format = F → (∀ a ∈ activities, a.Signals f) →
      f ∈ d.handedIn (activities.map (·.operation F)) → f.Sized → f.Guarded := by
  induction activities with
  | nil =>
      intro d _ _ _ hf _
      cases hf
  | cons a activities ih =>
      intro d hs hformat ha hf hsize
      rcases List.mem_append.mp hf with hnow | hlater
      · rw [← hformat] at hnow
        exact guarded_of_handed (ha a List.mem_cons_self) hnow hsize
      · exact ih (hs.operate _) ((hs.format_operate _).trans hformat)
          (fun a' ha' => ha a' (List.mem_cons_of_mem _ ha')) hlater hsize

/-- The headers that only the server may set never leave on the live
channel. Whatever signals a client sends in whatever way and order, and
whatever else it does meanwhile, a frame that was handed to the transport
for one of them, or that is received at the other end, and holds a signal on
the live channel has an envelope without them. A binary frame must not be so
large that a head cannot count its parts. -/
theorem trusted_headers_never_leave_live {activities : List Activity}
    (hsignals : ∀ a ∈ activities, a.Signals f)
    (hf : f ∈ (ofConfig config).handedIn (activities.map (·.operation config.format))
      ∨ ∃ now n, f ∈ (((ofConfig config).pursue activities).receive now n).2)
    (hsize : f.Sized) {e : Envelope} (he : f.decode = .ok e) {s : Signal}
    (hs : e.toSignal = .ok s) (hlive : s.channel = .live) :
    ∀ key ∈ ["read-subjects", "authorization-context", "response-required"],
      e.headers.contains key = false := by
  have hsound := sound_ofConfig config
  have hhanded : f ∈ (ofConfig config).handedIn (activities.map (·.operation config.format)) := by
    rcases hf with hhanded | hreceived
    · exact hhanded
    · obtain ⟨now, n, hreceived⟩ := hreceived
      rw [hsound.pursue_eq] at hreceived
      exact received_was_handed hreceived
  exact hsound.guarded_of_handedIn activities rfl hsignals hhanded hsize e s he hs hlive

/-- A command with all of these headers, sent on the live channel as if the
sender were the server. -/
def posing : Emission :=
  .emitLive (.command
    { type := "things.commands:open"
      entity := Frame.gate
      path := .root
      value := some (.text "wide")
      headers := .ofPairs
        [("authorization-context", "root"), ("correlation-id", "a"),
          ("read-subjects", "all"), ("response-required", "false")] })

/-- What is read at the other end. -/
def posed : Envelope where
  topic := ⟨Frame.gate, .things, .live, .commands, some "open"⟩
  headers := .ofPairs [("channel", "live"), ("correlation-id", "a")]
  path := .root
  value := some (.text "wide")
  status := none
  revision := none
  timestamp := none
  extra := none

theorem posing_leaves_untrusted :
    (posing.frame .json).decode = .ok posed
    ∧ ∀ key ∈ ["read-subjects", "authorization-context", "response-required"],
      posed.headers.contains key = false := by
  have hsent : Envelope.ofSignal posing.signal = posed := rfl
  have htopic : posed.topic.Proper :=
    ⟨by decide, by decide, by decide, by decide, by decide⟩
  have hflat : ∀ p ∈ posed.free, p.Flat := by
    intro p hp
    rw [List.mem_singleton.mp hp]
    exact Payload.flat_text "wide"
  have hdecode : (posing.frame .json).decode = .ok posed := by
    rw [Emission.frame, hsent]
    exact WireFormat.decode_flat htopic hflat
  have hsignals : ∀ a ∈ [Activity.send 0 posing], a.Signals (posing.frame .json) := by
    intro a ha op hop
    rw [List.mem_singleton.mp ha] at hop
    cases hop
  have hreceived : posing.frame .json
      ∈ (((ofConfig {}).pursue [.send 0 posing]).receive 1 1).2 := by
    obtain ⟨hqueue, -⟩ := (sound_ofConfig {}).start_accepting
      ⟨rfl, rfl, by decide⟩ (x := posing) rfl 0
    show _ ∈ (posing.start (ofConfig {}) 0).outbox.queue.take 1
    rw [hqueue]
    exact List.mem_singleton_self _
  exact ⟨hdecode, trusted_headers_never_leave_live hsignals
    (.inr ⟨1, 1, hreceived⟩) trivial hdecode
    (s := .command
      { type := "things.commands:open"
        entity := Frame.gate
        path := .root
        value := some (.text "wide")
        headers := posed.headers }) rfl rfl⟩

end Dispatcher

end DeviceTwin
