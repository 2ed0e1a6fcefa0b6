/-
What comes back from a frame.

An envelope without floating-point numbers comes back from its frame, but
for null in place of a free value, and it does so exactly when no more
lists and objects are open at once than the reader of the format follows
(`decode_encode_iff`). The object of the fields counts as one of them.

A reader of bytes follows further than one of text, so whatever comes back
from the text of an envelope comes back from its bytes too
(`binary_frames_come_back`).
-/
import DeviceTwin.Proofs.Frame

namespace DeviceTwin

namespace Envelope

variable {m : Medium} {e : Envelope}

/-- A free value of an envelope stands one level below the envelope. -/
theorem height_lt_of_mem_free {p : Payload} (hp : p ∈ e.free) :
    p.value.height < e.record.height := by
  have hfield : ∃ f ∈ e.fields, f.2 = p := by
    rcases mem_free.mp hp with hvalue | hextra
    · exact ⟨("value", p), by simp [fields, optionalField, Option.mem_def.mp hvalue], rfl⟩
    · exact ⟨("extra", p), by simp [fields, optionalField, Option.mem_def.mp hextra], rfl⟩
  obtain ⟨f, hf, rfl⟩ := hfield
  have hentry : (f.1, f.2.value) ∈ e.fields.map fun f => (f.1, f.2.value) :=
    List.mem_map_of_mem hf
  exact Nat.lt_succ_of_le (Value.height_le_entriesHeight hentry)

/-- There is room for the envelope where there is for its free values. -/
theorem allows_record_iff (hroom : m.Allows 0 2) :
    m.Allows 0 e.record.height ↔ ∀ p ∈ e.free, m.Allows 1 p.value.height := by
  constructor
  · intro h p hp limit hlimit
    have hfits := h limit hlimit
    have hlt := height_lt_of_mem_free hp
    omega
  · intro h limit hlimit
    -- all other fields are flat
    have hheight : ∀ f ∈ e.fields, f.2.value.height ≤ limit - 1 := by
      intro f hf
      rcases flat_or_free hf with hflat | hfree
      · have hone := hflat.height
        have htwo := hroom limit hlimit
        omega
      · have hfits := h f.2 hfree limit hlimit
        omega
    have hentries : Value.entriesHeight (e.fields.map fun f => (f.1, f.2.value))
        ≤ limit - 1 := by
      apply Value.entriesHeight_le
      intro entry hentry
      obtain ⟨f, hf, rfl⟩ := List.mem_map.mp hentry
      exact hheight f hf
    have htwo := hroom limit hlimit
    show 0 + (Value.entriesHeight _ + 1) ≤ limit
    omega

end Envelope

-- ==================================================================== formats

namespace WireFormat

variable (F : WireFormat)

/-- An envelope comes back from its frame if and only if the reader follows
it down to its last list or object. -/
theorem decode_encode_iff {e : Envelope}
    (htopic : Topic.parse e.topic.text = .ok e.topic)
    (hfloat : ∀ p ∈ e.free, p.value.FloatFree)
    (hfits : F = .msgpack → MsgPack.Fits e.record) :
    (F.encode e).decode = .ok e.withoutNulls
      ↔ F.medium.Allows 0 e.record.height := by
  rw [Envelope.allows_record_iff (F.allows_medium.mono (by decide))]
  constructor
  · intro h
    exact (F.rereads_of_decode hfits h).room
  · intro hroom
    exact F.decode_encode htopic hfloat hroom hfits

theorem allows_json {height : Nat} : json.medium.Allows 0 height ↔ height ≤ 127 := by
  simp [Medium.Allows, medium, Medium.text]

theorem allows_msgpack {height : Nat} :
    msgpack.medium.Allows 0 height ↔ height ≤ 1023 := by
  simp [Medium.Allows, medium, Medium.binary]

end WireFormat

namespace Frame

variable {e : Envelope}

/-- An envelope comes back from its text, with every text in it, every
number and every field that is left out, but for free values that are null,
which come back as left out. Not more than 127 lists and objects may be open
at once, the envelope itself counted; with one more it does not come back. -/
theorem text_frames_come_back
    (htopic : Topic.parse e.topic.text = .ok e.topic)
    (hfloat : ∀ p ∈ e.free, p.value.FloatFree) :
    (WireFormat.json.encode e).decode = .ok e.withoutNulls ↔ e.record.height ≤ 127 :=
  (WireFormat.json.decode_encode_iff htopic hfloat nofun).trans WireFormat.allows_json

/-- A report of the gate with marks, controls and letters of all kinds in its
headers, its path and its value, and with null in its extra field. -/
def gateReport : Envelope where
  topic := ⟨gate, .things, .twin, .events, some "reported"⟩
  headers := .ofPairs [("\"quoted\"", "back\\slash"), ("", "\x00\n\x1f\u2028"), ("größe", "𝄞")]
  path := .parse "/features/a~1b~0\"\t"
  value := some (.ofPairs
    [("\\\"", .ofList [.text "\x7f\"\\/\x08\x0c\r", .null, ⟨.bool true, trivial⟩]),
     ("δ", .ofPairs [])])
  status := none
  revision := some (-1)
  timestamp := none
  extra := some .null

theorem gateReport_comes_back :
    (WireFormat.json.encode gateReport).decode = .ok { gateReport with extra := none } := by
  have htopic : gateReport.topic.Proper :=
    ⟨by decide, by decide, by decide, by decide, by decide⟩
  have hfloat : ∀ p ∈ gateReport.free, p.value.FloatFree := by
    intro p hp
    rcases List.mem_cons.mp hp with rfl | hp
    · exact ⟨⟨trivial, trivial, trivial, trivial⟩, trivial, trivial⟩
    · rw [List.mem_singleton.mp hp]
      trivial
  have hnulls : gateReport.withoutNulls = { gateReport with extra := none } := by rfl
  rw [← hnulls]
  exact (text_frames_come_back htopic.parse_text hfloat).mpr (by decide)

/-- An envelope comes back from its bytes as it does from its text, with every
length and every integer at the borders of its forms. Not more than 1023
lists and objects may be open at once, and no text, list or object may be
longer than its head can say. What comes back from the text of the envelope
comes back from its bytes. -/
theorem binary_frames_come_back
    (htopic : Topic.parse e.topic.text = .ok e.topic)
    (hfloat : ∀ p ∈ e.free, p.value.FloatFree) (hfits : MsgPack.Fits e.record) :
    ((WireFormat.msgpack.encode e).decode = .ok e.withoutNulls
      ↔ e.record.height ≤ 1023)
    ∧ ∀ e', (WireFormat.json.encode e).decode = .ok e' →
      (WireFormat.msgpack.encode e).decode = .ok e' := by
  have hbytes := (WireFormat.msgpack.decode_encode_iff htopic hfloat fun _ => hfits).trans
    WireFormat.allows_msgpack
  refine ⟨hbytes, ?_⟩
  intro e' he'
  -- what was read from the text did not nest too deeply for it
  have hroom := (WireFormat.json.rereads_of_decode nofun he').room
  have hheight : e.record.height ≤ 127 := WireFormat.allows_json.mp
    ((Envelope.allows_record_iff (WireFormat.json.allows_medium.mono (by decide))).mpr hroom)
  have htext := WireFormat.json.decode_encode htopic hfloat hroom nofun
  obtain rfl : e.withoutNulls = e' := Except.ok.inj (htext.symm.trans he')
  exact hbytes.mpr (by omega)

/-- Integers on both sides of the borders of their forms, sixteen of them and
more, and a text of 32 bytes. -/
def gateLimits : Envelope where
  topic := ⟨gate, .things, .twin, .commands, some "modify"⟩
  headers := .ofPairs [("correlation-id", "0123456789abcdef0123456789abcdef")]
  path := .root
  value := some (.ofList
    (([127, 128, 255, 256, 65535, 65536, 4294967295, 4294967296, -1, -32, -33, -128, -129,
      -32768, -32769, -2147483648, -2147483649] : List Int64).map
        fun n => ⟨.int (.ofInt64 n), trivial⟩))
  status := none
  revision := none
  timestamp := none
  extra := some .null

theorem gateLimits_come_back :
    (WireFormat.msgpack.encode gateLimits).decode = .ok { gateLimits with extra := none }
    ∧ (WireFormat.msgpack.encode gateLimits).decode
      = (WireFormat.json.encode gateLimits).decode := by
  have htopic : gateLimits.topic.Proper :=
    ⟨by decide, by decide, by decide, by decide, by decide⟩
  have hfloat : ∀ p ∈ gateLimits.free, p.value.FloatFree := by
    intro p hp
    rcases List.mem_cons.mp hp with rfl | hp
    · repeat constructor
    · rw [List.mem_singleton.mp hp]
      trivial
  have hvalue : ∀ p ∈ gateLimits.value, MsgPack.Fits p.value := by
    intro p hp
    obtain rfl := Option.some.inj hp
    refine ⟨by decide, ?_⟩
    repeat constructor
  have hfits : MsgPack.Fits gateLimits.record :=
    ⟨by decide, by decide, MsgPack.fits_text (by decide), by decide,
      ⟨by decide, by decide, MsgPack.fits_text (by decide), trivial⟩, by decide,
      MsgPack.fits_text (by decide), by decide, hvalue _ rfl, by decide, trivial, trivial⟩
  have hnulls : gateLimits.withoutNulls = { gateLimits with extra := none } := rfl
  obtain ⟨hbytes, hsame⟩ := binary_frames_come_back htopic.parse_text hfloat hfits
  have htext := (WireFormat.json.decode_encode_iff htopic.parse_text hfloat nofun).mpr
    (WireFormat.allows_json.mpr (by decide))
  rw [← hnulls]
  exact ⟨hbytes.mpr (by decide), (hsame _ htext).trans htext.symm⟩

end Frame

end DeviceTwin
