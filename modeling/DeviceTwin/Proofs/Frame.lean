/-
Frames are read back as they are written.

An envelope that is written in either format is read back from the frame
(`decode_encode`): the reader gives the outline of what was written, and
decoding that outline gives the envelope.

Frames also come from others, who write envelopes in ways of their own:
as lists instead of objects, with fields that nobody knows, with slashes
that mean nothing, without headers or with headers that say what the topic
says already. All of this goes when the signal in the frame is taken out
and put in an envelope of its own. What is sent on is not what came in, but
it holds the same signal, and so does every frame that is made of it from
then on (`reencoded_signals_stay`).
-/
import DeviceTwin.Frame
import DeviceTwin.Proofs.Envelope.Received
import DeviceTwin.Proofs.Envelope.Reread
import DeviceTwin.Proofs.Json.Value
import DeviceTwin.Proofs.MsgPack

namespace DeviceTwin

-- ==================================================================== reading

namespace Envelope

/-- No floating-point number is in what is read as the free values. -/
def FloatFree (o : Outline) : Prop :=
  ∀ name ∈ ["value", "extra"], ∀ item,
    (shape.index name, item) ∈ o.recordFields shape → item.FloatFree

/-- What is kept of the fields that were read so far. -/
structure Draft.Sound (d : Draft) : Prop where
  topic : ∀ t ∈ d.topic, t.Proper
  value : ∀ p ∈ d.value, p.value.FloatFree ∧ p ≠ .null
  extra : ∀ p ∈ d.extra, p.value.FloatFree ∧ p ≠ .null

theorem Draft.sound_empty : ({} : Draft).Sound where
  topic := fun _ h => by cases h
  value := fun _ h => by cases h
  extra := fun _ h => by cases h

theorem proper_of_asTopic {o : Outline} {t : Topic} (h : o.asTopic = .ok t) :
    t.Proper := by
  obtain ⟨s, -, h⟩ := Result.bind_eq_ok.mp h
  split at h
  case h_1 hparse =>
    obtain rfl := Except.ok.inj h
    exact Topic.proper_of_parse hparse
  case h_2 => cases h

/-- Each field keeps it. -/
theorem Draft.Sound.read {m : Medium} {depth i : Nat} {d d' : Draft}
    {o : Outline} (hd : d.Sound) (h : d.read m depth i o = .ok d')
    (hfloat : i = 3 ∨ 7 ≤ i → o.FloatFree) : d'.Sound := by
  match i with
  | 0 =>
      obtain ⟨t, ht, h⟩ := Result.bind_eq_ok.mp h
      obtain rfl := Except.ok.inj h
      refine { hd with topic := fun t' ht' => ?_ }
      obtain rfl := Option.some.inj ht'
      exact proper_of_asTopic ht
  | 1 | 2 | 4 | 5 | 6 =>
      obtain ⟨_, -, h⟩ := Result.bind_eq_ok.mp h
      obtain rfl := Except.ok.inj h
      exact ⟨hd.topic, hd.value, hd.extra⟩
  | 3 =>
      obtain ⟨content, hcontent, h⟩ := Result.bind_eq_ok.mp h
      obtain rfl := Except.ok.inj h
      exact { hd with
        value := Outline.content_of_optional hcontent (hfloat (.inl rfl)) }
  | k + 7 =>
      obtain ⟨content, hcontent, h⟩ := Result.bind_eq_ok.mp h
      obtain rfl := Except.ok.inj h
      exact { hd with
        extra := Outline.content_of_optional hcontent
          (hfloat (.inr (Nat.le_add_left 7 k))) }

/-- What every field keeps holds of the fields of an envelope that was read. -/
theorem draft_of_decode {m : Medium} {o : Outline} {e : Envelope} {P : Draft → Prop}
    (h : decode m 0 o = .ok e) (hempty : P {})
    (hread : ∀ i item, (i, item) ∈ o.recordFields shape → i < 8 →
      ∀ d d', P d → d.read m 1 i item = .ok d' → P d') :
    ∃ d : Draft, P d ∧ d.topic = some e.topic ∧ d.value = e.value ∧ d.extra = e.extra := by
  obtain ⟨⟨d, missing⟩, hrecord, he⟩ := Result.bind_eq_ok.mp h
  have hd : P d := by
    refine Result.foldlM_keeps (P := P) ?_ hempty (Outline.readRecord_eq_ok hrecord)
    rintro ⟨i, item⟩ hmem d d' hd hfield
    exact hread i item hmem (Outline.lt_of_mem_recordFields hrecord hmem) d d' hd hfield
  -- the envelope has the fields of the draft
  simp only at he
  split at he
  case h_1 => cases he
  case h_2 topic htopic =>
    obtain rfl := Except.ok.inj he
    exact ⟨d, hd, htopic, rfl, rfl⟩

/-- The topic of an envelope that was read is proper, and its free values
are neither null nor hold floating-point numbers, if the frame has none in
their place. -/
theorem sound_of_decode {m : Medium} {o : Outline} {e : Envelope}
    (h : decode m 0 o = .ok e) (hfloat : FloatFree o) :
    e.topic.Proper ∧ ∀ p ∈ e.free, p.value.FloatFree ∧ p ≠ .null := by
  have hread : ∀ i item, (i, item) ∈ o.recordFields shape → i < 8 →
      ∀ d d' : Draft, d.Sound → d.read m 1 i item = .ok d' → d'.Sound := by
    intro i item hmem hlt d d' hd hread
    refine hd.read hread fun hi => ?_
    obtain rfl | rfl : i = 3 ∨ i = 7 := by omega
    · exact hfloat "value" (by decide) item hmem
    · exact hfloat "extra" (by decide) item hmem
  obtain ⟨d, hd, htopic, hvalue, hextra⟩ := draft_of_decode h Draft.sound_empty hread
  refine ⟨hd.topic e.topic htopic, fun p hp => ?_⟩
  rcases mem_free.mp hp with hp | hp
  · exact hd.value p (hvalue ▸ hp)
  · exact hd.extra p (hextra ▸ hp)

/-- Whatever else is in it, the topic of an envelope that was read is proper. -/
theorem proper_of_decode {m : Medium} {o : Outline} {e : Envelope}
    (h : decode m 0 o = .ok e) : e.topic.Proper := by
  let P : Draft → Prop := fun d => ∀ t ∈ d.topic, t.Proper
  have hread : ∀ i item, (i, item) ∈ o.recordFields shape → i < 8 →
      ∀ d d', P d → d.read m 1 i item = .ok d' → P d' := by
    intro i item _ _ d d' hd hread
    match i with
    | 0 =>
        obtain ⟨t, ht, hread⟩ := Result.bind_eq_ok.mp hread
        obtain rfl := Except.ok.inj hread
        intro t' ht'
        obtain rfl := Option.some.inj ht'
        exact proper_of_asTopic ht
    | 1 | 2 | 3 | 4 | 5 | 6 | k + 7 =>
        obtain ⟨_, -, hread⟩ := Result.bind_eq_ok.mp hread
        obtain rfl := Except.ok.inj hread
        exact hd
  obtain ⟨d, hd, htopic, -, -⟩ := draft_of_decode (P := P) h (fun _ ht => by cases ht) hread
  exact hd e.topic htopic

end Envelope

-- ===================================================================== frames

/-- What envelopes of a format are read through. -/
def WireFormat.medium : WireFormat → Medium
  | json => .text
  | msgpack => .binary

namespace Frame

/-- The tree of a frame. -/
def outline : Frame → Outline
  | text s => (Json.outline s).1
  | binary bytes => MsgPack.outline bytes

/-- The format of a frame. -/
def format : Frame → WireFormat
  | text _ => .json
  | binary _ => .msgpack

/-- Bytes below 2^32, as many as a head can count. -/
def Sized : Frame → Prop
  | text _ => True
  | binary bytes => bytes.length < 4294967296

/-- An envelope in a frame was decoded from the tree of the frame. -/
theorem decode_eq_ok {f : Frame} {e : Envelope} (h : f.decode = .ok e) :
    Envelope.decode f.format.medium 0 f.outline = .ok e := by
  cases f with
  | text s => exact Json.read_of_decode (Result.mapError_eq_ok h)
  | binary bytes => exact MsgPack.read_of_decode (Result.mapError_eq_ok h)

end Frame

namespace WireFormat

variable (F : WireFormat)

/-- Every format has room for the members of sets. -/
theorem allows_medium : F.medium.Allows 0 4 := by
  intro limit hlimit
  cases F <;> cases hlimit <;> decide

theorem allows_flat {p : Payload} (h : p.Flat) : F.medium.Allows 1 p.value.height := by
  have hone : F.medium.Allows 1 1 := fun limit hlimit =>
    Nat.le_trans (by decide) (F.allows_medium limit hlimit)
  exact hone.mono h.height

/-- What the reader of a format makes of a floating-point number. -/
def leaf : WireFormat → Double → Outline
  | json => Json.numeral
  | msgpack => .float

/-- The tree of a frame is that of the envelope that was written, but for
its floating-point numbers. -/
theorem outline_encode_by {e : Envelope} (hfits : F = .msgpack → MsgPack.Fits e.record) :
    (F.encode e).outline = e.record.outlineBy F.leaf := by
  cases F with
  | json => exact congrArg Prod.fst (Json.outline_text e.record)
  | msgpack =>
      have hsame : e.record.outlineBy msgpack.leaf = e.record.outline :=
        Value.outlineBy_eq (.inl fun _ => rfl)
      rw [hsame]
      exact MsgPack.outline_write (hfits rfl)

theorem outline_encode {e : Envelope} (hfloat : ∀ p ∈ e.free, p.value.FloatFree)
    (hfits : F = .msgpack → MsgPack.Fits e.record) :
    (F.encode e).outline = e.record.outline := by
  rw [F.outline_encode_by hfits]
  exact Value.outlineBy_eq (.inr (e.floatFree_record hfloat))

/-- Nothing in a frame that is not too large is too long for its head. -/
theorem fits_of_sized {e : Envelope} (h : (F.encode e).Sized) :
    F = .msgpack → MsgPack.Fits e.record := by
  rintro rfl
  exact MsgPack.fits_of_length_write h

/-- Whatever is read from a frame has been written there. -/
theorem rereads_of_decode {e e' : Envelope}
    (hfits : F = .msgpack → MsgPack.Fits e.record) (h : (F.encode e).decode = .ok e') :
    Envelope.Rereads F.medium e e' := by
  have hformat : (F.encode e).format = F := by
    cases F <;> rfl
  have hread := Frame.decode_eq_ok h
  rw [hformat, F.outline_encode_by hfits] at hread
  exact Envelope.rereads_of_decode (F.allows_medium.mono (by decide)) hread

/-- A frame of our own has floating-point numbers where its envelope has. -/
theorem floatFree_encode {e : Envelope} (hfloat : ∀ p ∈ e.free, p.value.FloatFree)
    (hfits : F = .msgpack → MsgPack.Fits e.record) :
    Envelope.FloatFree (F.encode e).outline := by
  rw [F.outline_encode hfloat hfits]
  intro name _ item hmem
  obtain ⟨w, hw, rfl⟩ := Outline.part_of_mem_recordFields hmem
  exact Outline.floatFree_outline (hw.floatFree (e.floatFree_record hfloat))

/-- An envelope is read back from its frame, but for null. -/
theorem decode_encode {e : Envelope}
    (htopic : Topic.parse e.topic.text = .ok e.topic)
    (hfloat : ∀ p ∈ e.free, p.value.FloatFree)
    (hroom : ∀ p ∈ e.free, F.medium.Allows 1 p.value.height)
    (hfits : F = .msgpack → MsgPack.Fits e.record) :
    (F.encode e).decode = .ok e.withoutNulls := by
  have hrecord := Envelope.decode_record htopic
    (F.allows_medium.mono (by decide)) hroom
  cases F with
  | json =>
      have hread : Json.decode (Envelope.decode .text 0) (Json.text e.record)
          = .ok e.withoutNulls :=
        Json.decode_text (Envelope.floatFree_record hfloat) hrecord
      rw [encode, Frame.decode, hread]
      rfl
  | msgpack =>
      have hread : MsgPack.decode (Envelope.decode .binary 0) (MsgPack.write e.record)
          = .ok e.withoutNulls :=
        MsgPack.decode_write (hfits rfl) hrecord
      rw [encode, Frame.decode, hread]
      rfl

/-- Without a list or an object in a free value, a text is read back. -/
theorem decode_flat {e : Envelope} (htopic : e.topic.Proper) (hflat : ∀ p ∈ e.free, p.Flat) :
    (json.encode e).decode = .ok e.withoutNulls :=
  json.decode_encode htopic.parse_text (fun p hp => (hflat p hp).floatFree)
    (fun p hp => json.allows_flat (hflat p hp)) nofun

end WireFormat

-- ================================================================ sending on

namespace Frame

/-- A signal that came in a frame is in every frame that is made of it, and
in each it is the same. The frame that it came in may be of either format
and written in any way, as long as no floating-point number stands in the
place of a free value and the free values nest no deeper than both formats
allow; in a binary frame no text, list or object may be longer than its
head can say. -/
theorem reencoded_signals_stay {f : Frame} {e : Envelope} {s : Signal}
    (hf : f.decode = .ok e) (hs : e.toSignal = .ok s)
    (hfloat : Envelope.FloatFree f.outline)
    (hnest : ∀ F : WireFormat, ∀ p ∈ e.free, F.medium.Allows 1 p.value.height)
    (F : WireFormat)
    (hfits : F = .msgpack → MsgPack.Fits (Envelope.ofSignal s).record) :
    (F.encode (.ofSignal s)).toSignal = .ok s := by
  have hholds := Envelope.holds_of_toSignal hs
  obtain ⟨htopic, hfree⟩ := Envelope.sound_of_decode (decode_eq_ok hf) hfloat
  -- what came in can be sent, and so can what is made of it
  have hold : ∀ p ∈ e.free, Envelope.Sendable F.medium p := fun p hp =>
    ⟨(hfree p hp).1, hnest F p hp, (hfree p hp).2⟩
  have hroom : F.medium.Allows 1 3 := fun limit hlimit =>
    F.allows_medium limit hlimit
  have hnew := Envelope.sendable_ofSignal hroom hold hholds
  have hdecode := F.decode_encode
    (Envelope.proper_ofSignal htopic hholds).parse_text
    (fun p hp => (hnew p hp).floatFree) (fun p hp => (hnew p hp).room) hfits
  rw [Envelope.withoutNulls_eq fun p hp => (hnew p hp).ne_null] at hdecode
  exact Result.bind_eq_ok.mpr ⟨_, hdecode, Envelope.toSignal_ofSignal hholds⟩

/-- The gate of a garden. -/
def gate : EntityId := ⟨"garden", "gate", by decide, by decide⟩

/-- An event on the live channel that says so in its topic only, and that
has no revision. -/
def opened : Envelope where
  topic := ⟨gate, .things, .live, .events, some "opened"⟩
  headers := .ofPairs [("correlation-id", "a")]
  path := .root
  value := some (.text "wide")
  status := none
  revision := none
  timestamp := none
  extra := none

/-- The signal in it, which has both. -/
def openedSignal : Signal :=
  .event
    { type := "things.events:opened"
      entity := gate
      path := .root
      value := some (.text "wide")
      revision := 0
      timestamp := none
      extra := none
      headers := .ofPairs [("channel", "live"), ("correlation-id", "a")] }

/-- What came in as text without the two goes out in bytes with both, and it
is the same event that is read from these. -/
theorem opened_stays :
    (WireFormat.json.encode opened).decode = .ok opened
    ∧ opened.toSignal = .ok openedSignal
    ∧ (WireFormat.msgpack.encode (.ofSignal openedSignal)).toSignal
      = .ok openedSignal := by
  have htopic : opened.topic.Proper :=
    ⟨by decide, by decide, by decide, by decide, by decide⟩
  have hflat : ∀ p ∈ opened.free, p.Flat := by
    intro p hp
    rw [List.mem_singleton.mp hp]
    exact Payload.flat_text "wide"
  have hnest : ∀ F : WireFormat, ∀ p ∈ opened.free, F.medium.Allows 1 p.value.height := by
    intro F p hp
    exact F.allows_flat (hflat p hp)
  have hdecode : (WireFormat.json.encode opened).decode = .ok opened :=
    WireFormat.json.decode_encode htopic.parse_text (fun p hp => (hflat p hp).floatFree)
      (hnest .json) nofun
  have hfloat := WireFormat.json.floatFree_encode
    (fun p hp => (hflat p hp).floatFree) nofun
  have hsignal : opened.toSignal = .ok openedSignal := rfl
  have hheaders : MsgPack.Fits (Envelope.ofSignal openedSignal).headers.payload.value :=
    ⟨by decide, by decide, MsgPack.fits_text (by decide), by decide,
      MsgPack.fits_text (by decide), trivial⟩
  have hfits : MsgPack.Fits (Envelope.ofSignal openedSignal).record :=
    ⟨by decide, by decide, MsgPack.fits_text (by decide), by decide, hheaders,
      by decide, MsgPack.fits_text (by decide), by decide,
      MsgPack.fits_text (by decide), by decide, trivial, trivial⟩
  exact ⟨hdecode, hsignal,
    reencoded_signals_stay hdecode hsignal hfloat hnest .msgpack fun _ => hfits⟩

end Frame

end DeviceTwin
