/-
Headers on the live channel.

Headers that leave on the live channel are marked as live and lose the keys
that only the server may set (`get?_forLive`); nothing else happens to them.
So headers that are marked and have none of these keys leave as they are
(`forLive_eq_self`), which is what keeps the headers of a reply from being
changed on their way.
-/
import DeviceTwin.Outgoing

namespace DeviceTwin

namespace Headers

/-- Taking keys out one after the other takes out these and no others. -/
theorem get?_foldl_without (key : String) (keys : List String) :
    ∀ h : Headers,
      (keys.foldl without h).get? key = if key ∈ keys then none else h.get? key := by
  induction keys with
  | nil => exact fun _ => rfl
  | cons other keys ih =>
      intro h
      rw [List.foldl_cons, ih (h.without other)]
      by_cases hlater : key ∈ keys
      · rw [if_pos hlater, if_pos (List.mem_cons_of_mem _ hlater)]
      · rw [if_neg hlater]
        by_cases hsame : key = other
        · rw [hsame, if_pos List.mem_cons_self]
          exact h.get?_without_self other
        · rw [if_neg fun hmem => (List.mem_cons.mp hmem).elim hsame hlater]
          exact get?_without_of_ne hsame h

-- ============================================================== the live channel

/-- On the live channel the keys of the server are gone, the channel is named, and the
rest is as it was. -/
theorem get?_forLive (h : Headers) (key : String) :
    h.forLive.get? key
      = if key ∈ serverTrustedKeys then none else (h.withChannel .live).get? key :=
  get?_foldl_without key serverTrustedKeys (h.withChannel .live)

/-- Marked headers name the channel. -/
theorem get?_channel_withChannel (h : Headers) (c : Channel) :
    (h.withChannel c).get? channelKey = some c.name :=
  get?_set_self ..

/-- Headers for the live channel name it. -/
theorem get?_channel_forLive (h : Headers) :
    h.forLive.get? channelKey = some Channel.live.name := by
  rw [get?_forLive, if_neg (by decide)]
  exact h.get?_channel_withChannel .live

/-- Headers that name a channel are on it. -/
theorem channel_of_get? {h : Headers} {c : Channel}
    (hc : h.get? channelKey = some c.name) : h.channel = c := by
  rw [channel, hc, Option.bind_some, Channel.ofName?_name]
  rfl

/-- Headers are on the channel that they name, and on the twin channel if they
name none that there is. -/
theorem channel_cases (h : Headers) :
    (∃ c : Channel, h.get? channelKey = some c.name ∧ h.channel = c)
    ∨ (∀ c : Channel, h.get? channelKey ≠ some c.name) ∧ h.channel = .twin := by
  cases hname : (h.get? channelKey).bind Channel.ofName? with
  | some c =>
      left
      obtain ⟨raw, hraw, hc⟩ := Option.bind_eq_some_iff.mp hname
      obtain rfl := Channel.name_of_ofName? hc
      exact ⟨c, hraw, channel_of_get? hraw⟩
  | none =>
      right
      refine ⟨fun c hc => ?_, by rw [channel, hname, Option.getD_none]⟩
      rw [hc, Option.bind_some, Channel.ofName?_name] at hname
      cases hname

/-- Headers for the live channel are on it. -/
theorem channel_forLive (h : Headers) : h.forLive.channel = .live :=
  channel_of_get? h.get?_channel_forLive

/-- A correlation id leaves the channel alone. -/
theorem get?_channel_ensureCorrelationId (h : Headers) (fresh : String) :
    (h.ensureCorrelationId fresh).get? channelKey = h.get? channelKey := by
  unfold ensureCorrelationId
  split
  case isTrue => rfl
  case isFalse => exact get?_set_of_ne (by decide) ..

-- ========================================================= the keys of the server

/-- None of the headers that only the server may set. -/
def Untrusted (h : Headers) : Prop := ∀ key ∈ serverTrustedKeys, h.contains key = false

/-- What leaves on the live channel has none of them. -/
theorem untrusted_forLive (h : Headers) : h.forLive.Untrusted := by
  intro key hkey
  rw [contains, get?_forLive, if_pos hkey]
  rfl

/-- Headers that are marked as live and have none of the server stay as they
are on the live channel. -/
theorem forLive_eq_self {h : Headers} (hchannel : h.get? channelKey = some Channel.live.name)
    (huntrusted : h.Untrusted) : h.forLive = h := by
  apply ext_get?
  intro key
  rw [get?_forLive]
  split
  case isTrue hkey =>
    have hnone := huntrusted key hkey
    rw [contains, Option.isSome_eq_false_iff, Option.isNone_iff_eq_none] at hnone
    exact hnone.symm
  case isFalse =>
    by_cases hmark : key = channelKey
    · rw [hmark, hchannel]
      exact h.get?_channel_withChannel .live
    · exact get?_set_of_ne hmark ..

-- ============================================================ headers of answers

/-- The headers of an answer: a channel, and a correlation id if there is one. -/
def routed (c : Channel) (id? : Option String) : Headers :=
  match id? with
  | some id => (empty.withChannel c).withCorrelationId id
  | none => empty.withChannel c

/-- The headers of an answer are its correlation id and its channel, and no others. -/
theorem get?_routed (c : Channel) (id? : Option String) (key : String) :
    (routed c id?).get? key
      = if key = correlationKey then id?
        else if key = channelKey then some c.name else none := by
  have hchannel : (empty.withChannel c).get? key
      = if key = channelKey then some c.name else none := by
    by_cases hkey : key = channelKey
    · rw [if_pos hkey, hkey]
      exact empty.get?_channel_withChannel c
    · rw [if_neg hkey]
      exact get?_set_of_ne hkey ..
  cases id? with
  | none =>
      refine hchannel.trans ?_
      by_cases hkey : key = correlationKey
      · rw [if_pos hkey, hkey]
        exact if_neg (by decide)
      · rw [if_neg hkey]
  | some id =>
      by_cases hkey : key = correlationKey
      · rw [if_pos hkey, hkey]
        exact get?_set_self ..
      · rw [if_neg hkey, ← hchannel]
        exact get?_set_of_ne hkey ..

/-- An answer names its channel. -/
theorem get?_channel_routed (c : Channel) (id? : Option String) :
    (routed c id?).get? channelKey = some c.name := by
  rw [get?_routed, if_neg (by decide), if_pos rfl]

/-- An answer is on the channel that it was made for. -/
theorem channel_routed (c : Channel) (id? : Option String) : (routed c id?).channel = c :=
  channel_of_get? (get?_channel_routed c id?)

/-- An answer has the correlation id that it was made for, if any. -/
theorem correlationId_routed (c : Channel) (id? : Option String) :
    (routed c id?).correlationId = id? := by
  rw [correlationId, get?_routed, if_pos rfl]

/-- An answer has no header that only the server may set. -/
theorem untrusted_routed (c : Channel) (id? : Option String) : (routed c id?).Untrusted := by
  intro key hkey
  have hother : key ≠ correlationKey ∧ key ≠ channelKey := by
    simp only [serverTrustedKeys, List.mem_cons, List.not_mem_nil, or_false] at hkey
    obtain rfl | rfl | rfl := hkey <;> exact ⟨by decide, by decide⟩
  rw [contains, get?_routed, if_neg hother.1, if_neg hother.2]
  rfl

/-- Those of an answer on the live channel are fit for it. -/
theorem forLive_routed (id? : Option String) : (routed .live id?).forLive = routed .live id? :=
  forLive_eq_self (get?_channel_routed .live id?) (untrusted_routed .live id?)

end Headers

-- ==================================================================== signals

namespace Signal

/-- With its own headers a signal is what it is. -/
theorem withHeaders_headers (s : Signal) : s.withHeaders s.headers = s := by
  cases s <;> rfl

/-- A signal with headers fit for the live channel leaves on it as it is. -/
theorem forChannel_live_eq_self {s : Signal} (h : s.headers.forLive = s.headers) :
    s.forChannel .live = s := by
  rw [forChannel, h, withHeaders_headers]

/-- A signal with the headers of an answer leaves on its channel as it is. -/
theorem forChannel_routed {s : Signal} {c : Channel} {id? : Option String}
    (h : s.headers = .routed c id?) : s.forChannel c = s := by
  cases c with
  | live =>
      apply forChannel_live_eq_self
      rw [h]
      exact Headers.forLive_routed id?
  | twin | none => rfl

end Signal

end DeviceTwin
