/-
The channel on which a command of a thing leaves.

The topic of an envelope is made of the headers of the signal, and of
nothing else: whoever sends a command on a channel has to write it there.
The handle of the devices does. Its commands are marked as live whatever
channel their headers named before, and nothing takes the mark away. The
other handles leave headers as they are, and a command whose headers name
the live channel goes there, through whichever handle it was asked
(`Handle.reached`). So the handle decides for the devices and the headers
decide for the rest (`thing_commands_reach_handle_or_header`).

The channel that is written into a topic is also the one that is read from
it: whatever the parts of the topic are, its text is cut into the segments
that it was put together from, or not read at all (`Topic.Unmoved`).
-/
import DeviceTwin.Proofs.Dispatcher.Emission
import DeviceTwin.Proofs.Frame
import DeviceTwin.Proofs.Outgoing

namespace DeviceTwin

-- ==================================================================== signals

namespace Signal

theorem group_withHeaders (s : Signal) (h : Headers) : (s.withHeaders h).group = s.group := by
  cases s <;> rfl

theorem group_forChannel (s : Signal) (c : Channel) : (s.forChannel c).group = s.group := by
  cases c with
  | live => exact s.group_withHeaders _
  | twin | none => rfl

/-- A signal that leaves on the live channel is marked as live; on the others
it keeps the channel that its headers name. -/
theorem channel_forChannel (s : Signal) (c : Channel) :
    (s.forChannel c).channel = if c = .live then .live else s.channel := by
  cases c with
  | live =>
      rw [if_pos rfl, channel, forChannel, headers_withHeaders]
      exact s.headers.channel_forLive
  | twin | none => rfl

/-- The last adjustment leaves the channel as it is. -/
theorem channel_leaving (s : Signal) : s.leaving.channel = s.channel := by
  rw [leaving, channel_forChannel]
  split
  case isTrue hlive => exact hlive.symm
  case isFalse => rfl

/-- A correlation id does not move a signal to another channel. -/
theorem channel_prepared (s : Signal) (fresh : String) :
    (s.prepared fresh).channel = s.channel := by
  rw [Emission.prepared_eq_leaving, channel_leaving, channel, headers_withHeaders, channel,
    Headers.channel, Headers.channel, Headers.get?_channel_ensureCorrelationId]

/-- Nor to another group. -/
theorem group_prepared (s : Signal) (fresh : String) : (s.prepared fresh).group = s.group := by
  rw [Emission.prepared_eq_leaving, leaving, group_forChannel, group_withHeaders]

end Signal

-- ==================================================================== handles

/-- The channel that a command of a thing reaches through a handle: the live
one if the handle or the command names it, otherwise the twin. -/
def Handle.reached (h : Handle) (c : Command) : Channel :=
  if h.channel = .live ∨ c.headers.channel = .live then .live else .twin

/-- The handle of the devices reaches them, whatever the headers say. -/
theorem Handle.reached_live (c : Command) : Handle.live.reached c = .live :=
  if_pos (.inl rfl)

/-- The handle of the stored counterparts reaches one unless the headers name the
live channel. -/
theorem Handle.reached_twin_iff {c : Command} :
    Handle.twin.reached c = .twin ↔ c.headers.channel ≠ .live := by
  unfold reached
  split
  case isTrue hlive =>
    have hheader := hlive.resolve_left nofun
    exact ⟨nofun, fun hne => absurd hheader hne⟩
  case isFalse hneither => exact ⟨fun _ hheader => hneither (.inr hheader), fun _ => rfl⟩

namespace Emission

variable {h : Handle} {c : Command} {fresh : String}

/-- A command goes live through the handle of the devices, and elsewhere where its
headers say. -/
theorem channel_askThing :
    (askThing fresh h c).signal.channel
      = if h.channel = .live then .live else c.headers.channel := by
  show ((h.thingRequest c).signal.prepared fresh).channel = _
  rw [Signal.channel_prepared]
  exact Signal.channel_forChannel (.command c) h.channel

theorem group_askThing : (askThing fresh h c).signal.group = (Signal.command c).group := by
  show ((h.thingRequest c).signal.prepared fresh).group = _
  rw [Signal.group_prepared]
  exact Signal.group_forChannel (.command c) h.channel

/-- The topic of a command of a thing names the channel that it reaches. -/
theorem topic_askThing (hthing : (Signal.command c).group = .things) :
    (Envelope.ofSignal (askThing fresh h c).signal).topic.channel = h.reached c := by
  rw [Envelope.channel_ofSignal, group_askThing, hthing, channel_askThing]
  unfold Handle.reached
  by_cases hlive : h.channel = .live
  · rw [if_pos hlive, if_pos (.inl hlive)]
    rfl
  · rw [if_neg hlive]
    cases hc : c.headers.channel <;> simp [hlive, Topic.channelFor]

end Emission

-- ================================================================== envelopes

/-- A topic about a thing names the channel that was written into it, or its text
is not read. -/
theorem Envelope.Rereads.topic_channel {m : Medium} {e e' : Envelope} (h : Rereads m e e')
    (hthing : e.topic.group = .things) : e'.topic.channel = e.topic.channel :=
  (Topic.unmoved_of_parse_text h.topic).channel hthing

namespace Dispatcher

/-- Commands of things reach the channel that the handle or the headers name.
Whenever a command is asked through a handle, in any state of the client, the
frame that it hands over has a topic on the channel that `Handle.reached` gives,
and no other is read from it: through the handle of the devices the live one,
whatever the headers say; through that of the stored counterparts the twin,
except for a command whose headers name the live channel. The transport holds no
other frame afterwards but what it held before. A binary frame must not be so
large that a head cannot count its parts. -/
theorem thing_commands_reach_handle_or_header {d : Dispatcher} {now : Nat} {fresh : String}
    {h : Handle} {c : Command} (hthing : (Signal.command c).group = .things) {f : Frame}
    (hf : f ∈ d.handed ((Emission.askThing fresh h c).operation d.format now)) :
    (∃ written, f = d.format.encode written ∧ written.topic.channel = h.reached c)
    ∧ (f.Sized → ∀ e, f.decode = .ok e → e.topic.channel = h.reached c)
    ∧ d.askThing now fresh h c
        = d.operate ((Emission.askThing fresh h c).operation d.format now)
    ∧ (d.Sound → ∀ g ∈ (d.askThing now fresh h c).outbox.frames, g ∈ d.outbox.frames ∨ g = f)
    ∧ Handle.live.reached c = .live
    ∧ (Handle.twin.reached c = .twin ↔ c.headers.channel ≠ .live) := by
  obtain rfl := eq_frame_of_handed hf
  have hchannel : (Envelope.ofSignal (Emission.askThing fresh h c).signal).topic.channel
      = h.reached c := Emission.topic_askThing hthing
  refine ⟨⟨_, rfl, hchannel⟩, fun hsize e he => ?_, (Emission.askThing fresh h c).start_eq d now,
    fun hs g hg => hs.frames_start (x := .askThing fresh h c) hg, Handle.reached_live c,
    Handle.reached_twin_iff⟩
  have hreads := d.format.rereads_of_decode (d.format.fits_of_sized hsize) he
  have hgroup : (Envelope.ofSignal (Emission.askThing fresh h c).signal).topic.group = .things := by
    rw [Envelope.group_ofSignal, Emission.group_askThing, hthing]
  rw [hreads.topic_channel hgroup, hchannel]

/-- A command to a gate, with headers that name a channel. -/
def passedOn (channel : Channel) : Command where
  type := "things.commands:open"
  entity := Frame.gate
  path := .root
  value := some (.text "wide")
  headers := .ofPairs [("channel", channel.name), ("correlation-id", "a")]

/-- One that came from the twin goes to the device through the handle of the
devices, and back to the twin through the other one. -/
theorem passedOn_reaches_either :
    (∃ written, (Emission.askThing "b" .live (passedOn .twin)).frame .json
        = WireFormat.json.encode written ∧ written.topic.channel = .live)
    ∧ ∃ written, (Emission.askThing "b" .twin (passedOn .twin)).frame .json
        = WireFormat.json.encode written ∧ written.topic.channel = .twin := by
  have hthing : (Signal.command (passedOn .twin)).group = .things := by decide
  have hhanded : ∀ h, (Emission.askThing "b" h (passedOn .twin)).frame .json
      ∈ (ofConfig {}).handed ((Emission.askThing "b" h (passedOn .twin)).operation .json 0) := by
    rintro ⟨_ | _ | _⟩ <;> exact List.mem_singleton_self _
  obtain ⟨hlive, -⟩ := thing_commands_reach_handle_or_header hthing (hhanded .live)
  obtain ⟨htwin, -⟩ := thing_commands_reach_handle_or_header hthing (hhanded .twin)
  exact ⟨hlive, htwin⟩

/-- One that came from the device goes back there, although it is asked through
the handle of the stored counterparts. -/
theorem passedOn_strays :
    let asked := Emission.askThing "b" .twin (passedOn .live)
    (Signal.command (passedOn .live)).group = .things
    ∧ (ofConfig {}).handed (asked.operation .json 0) = [asked.frame .json]
    ∧ ∃ e, (asked.frame .json).decode = .ok e ∧ e.topic.channel = .live := by
  refine ⟨by decide, rfl, _, WireFormat.decode_flat ?_ ?_, rfl⟩
  · exact ⟨by decide, by decide, by decide, by decide, by decide⟩
  · intro p hp
    rw [List.mem_singleton.mp hp]
    exact Payload.flat_text "wide"

end Dispatcher

end DeviceTwin
