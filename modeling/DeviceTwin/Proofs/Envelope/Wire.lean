/-
Envelopes are read back as they are written.

Whichever medium the outline of an envelope comes through, decoding it
gives the envelope again (`decode_record`): the fields are read in the
order in which they were written, one after the other, and what was left
out is left out. The exceptions are free values that are null; under a key
null is no content. Two conditions are needed. The topic has to be one that
is read back itself, and the free values may not nest so deeply that the
medium refuses them one level further down.
-/
import DeviceTwin.Envelope.Basic
import DeviceTwin.Proofs.Envelope.Record
import DeviceTwin.Proofs.Timestamp

namespace DeviceTwin

open Outline (readNamed)

namespace Outline

variable {m : Medium} {depth : Nat}

theorem asTimestamp_text (t : Timestamp) : asTimestamp (.text t.text) = .ok t := by
  simp only [asTimestamp, t.parse?_text]

theorem asPointer_text (p : Pointer) : asPointer (.text p.text) = .ok p :=
  congrArg Except.ok p.parse_text

theorem asTopic_text {t : Topic} (h : Topic.parse t.text = .ok t) :
    asTopic (.text t.text) = .ok t := by
  refine Result.bind_eq_ok.mpr ⟨t.text, rfl, ?_⟩
  rw [h]

theorem asInt64_ofInt64 (n : Int64) : asInt64 (.int (.ofInt64 n)) = .ok n := by
  simp only [asInt64, Integer.toInt64?_ofInt64]

end Outline

namespace Envelope

/-- The free values of an envelope. -/
def free (e : Envelope) : List Payload := e.value.toList ++ e.extra.toList

/-- The envelope without the free values that are null. -/
def withoutNulls (e : Envelope) : Envelope :=
  { e with
    value := e.value.filter (· ≠ .null)
    extra := e.extra.filter (· ≠ .null) }

theorem mem_free {e : Envelope} {p : Payload} :
    p ∈ e.free ↔ p ∈ e.value ∨ p ∈ e.extra := by
  simp [free]

theorem withoutNulls_eq {e : Envelope} (h : ∀ p ∈ e.free, p ≠ .null) :
    e.withoutNulls = e := by
  have hvalue := Outline.filter_ne_null fun p hp => h p (mem_free.mpr (.inl hp))
  have hextra := Outline.filter_ne_null fun p hp => h p (mem_free.mpr (.inr hp))
  rw [withoutNulls, hvalue, hextra]

/-- All fields of an envelope are flat but its free values. -/
theorem flat_or_free {e : Envelope} {f : String × Payload} (hf : f ∈ e.fields) :
    f.2.Flat ∨ f.2 ∈ e.free := by
  simp only [fields, List.cons_append, List.mem_cons, List.mem_append] at hf
  obtain rfl | ((((hf | rfl | hf) | hf) | hf) | hf) | hf := hf
  · exact .inl (Payload.flat_text _)
  · exact .inl (Outline.mem_headersField hf ▸ e.headers.flat_payload)
  · exact .inl (Payload.flat_text _)
  · exact .inr (mem_free.mpr (.inl (Outline.mem_optionalField hf)))
  · obtain ⟨s, -, hs⟩ := Option.map_eq_some_iff.mp (Outline.mem_optionalField hf)
    exact .inl (hs ▸ Payload.flat_int _)
  · obtain ⟨n, -, hn⟩ := Option.map_eq_some_iff.mp (Outline.mem_optionalField hf)
    exact .inl (hn ▸ Payload.flat_int _)
  · obtain ⟨t, -, ht⟩ := Option.map_eq_some_iff.mp (Outline.mem_optionalField hf)
    exact .inl (ht ▸ Payload.flat_text _)
  · exact .inr (mem_free.mpr (.inr (Outline.mem_optionalField hf)))

/-- Floating-point numbers are in the free values or nowhere. -/
theorem floatFree_record {e : Envelope} (h : ∀ p ∈ e.free, p.value.FloatFree) :
    e.record.FloatFree := by
  refine Value.entriesFloatFree_iff.mpr fun entry hentry => ?_
  obtain ⟨f, hf, rfl⟩ := List.mem_map.mp hentry
  rcases flat_or_free hf with hflat | hfree
  · exact hflat.floatFree
  · exact h f.2 hfree

/-- The keys of an envelope are names of its fields, each at most once. -/
theorem map_fst_fields (e : Envelope) :
    (e.fields.map Prod.fst).Sublist shape.fields := by
  have hheaders := Outline.map_fst_headersField e.headers
  have hoptional := Outline.map_fst_optionalField
  unfold fields
  simp only [List.map_append, List.map_cons]
  exact (((((hheaders.cons_cons "topic").append
    ((hoptional "value" _).cons_cons "path")).append
    (hoptional "status" _)).append (hoptional "revision" _)).append
    (hoptional "timestamp" _)).append (hoptional "extra" _)

-- ==================================================================== fields

section fields

variable {m : Medium} {depth : Nat} {d : Draft}

theorem read_topic {t : Topic} (h : Topic.parse t.text = .ok t) :
    readNamed shape (Draft.read m depth) d ("topic", .text t.text)
      = .ok { d with topic := some t } :=
  Result.bind_eq_ok.mpr ⟨t, Outline.asTopic_text h, rfl⟩

theorem read_headers (hd : d.headers = .empty) (h : Headers)
    (hroom : m.Allows depth 1) :
    (headersField h).foldlM (readNamed shape (Draft.read m depth)) d
      = .ok { d with headers := h } := by
  rw [Outline.foldlM_headersField]
  split
  case isTrue hempty => rw [hempty, ← hd]
  case isFalse =>
    exact Result.bind_eq_ok.mpr ⟨h, Outline.asHeaders_payload h hroom, rfl⟩

theorem read_path (p : Pointer) :
    readNamed shape (Draft.read m depth) d ("path", .text p.text)
      = .ok { d with path := p } :=
  Result.bind_eq_ok.mpr ⟨p, Outline.asPointer_text p, rfl⟩

/-- A free value is read as the content that it is. -/
theorem read_value (hd : d.value = none) {content : Option Payload}
    (hroom : ∀ p ∈ content, m.Allows depth p.value.height) :
    (optionalField "value" content).foldlM (readNamed shape (Draft.read m depth)) d
      = .ok { d with value := content.filter (· ≠ .null) } := by
  rw [Outline.foldlM_optionalField]
  cases content with
  | none =>
      cases d
      subst hd
      rfl
  | some p =>
      have hread := Outline.optional_payload_filter (hroom p rfl)
      exact Result.bind_eq_ok.mpr ⟨_, hread, rfl⟩

theorem read_status (hd : d.status = none) (content : Option Status) :
    (optionalField "status" (content.map Status.payload)).foldlM
      (readNamed shape (Draft.read m depth)) d
      = .ok { d with status := content } := by
  rw [Outline.foldlM_optionalField]
  cases content with
  | none =>
      cases d
      subst hd
      rfl
  | some s =>
      have hread := Outline.optional_eq_ok (MemberRecord.asStatus_payload s) nofun
      exact Result.bind_eq_ok.mpr ⟨_, hread, rfl⟩

theorem read_revision (hd : d.revision = none) (content : Option Int64) :
    (optionalField "revision" (content.map fun n => ⟨.int (.ofInt64 n), trivial⟩)).foldlM
      (readNamed shape (Draft.read m depth)) d
      = .ok { d with revision := content } := by
  rw [Outline.foldlM_optionalField]
  cases content with
  | none =>
      cases d
      subst hd
      rfl
  | some n =>
      have hread := Outline.optional_eq_ok (Outline.asInt64_ofInt64 n) nofun
      exact Result.bind_eq_ok.mpr ⟨_, hread, rfl⟩

theorem read_timestamp (hd : d.timestamp = none) (content : Option Timestamp) :
    (optionalField "timestamp" (content.map fun t => .text t.text)).foldlM
      (readNamed shape (Draft.read m depth)) d
      = .ok { d with timestamp := content } := by
  rw [Outline.foldlM_optionalField]
  cases content with
  | none =>
      cases d
      subst hd
      rfl
  | some t =>
      have hread := Outline.optional_eq_ok (Outline.asTimestamp_text t) nofun
      exact Result.bind_eq_ok.mpr ⟨_, hread, rfl⟩

theorem read_extra (hd : d.extra = none) {content : Option Payload}
    (hroom : ∀ p ∈ content, m.Allows depth p.value.height) :
    (optionalField "extra" content).foldlM (readNamed shape (Draft.read m depth)) d
      = .ok { d with extra := content.filter (· ≠ .null) } := by
  rw [Outline.foldlM_optionalField]
  cases content with
  | none =>
      cases d
      subst hd
      rfl
  | some p =>
      have hread := Outline.optional_payload_filter (hroom p rfl)
      exact Result.bind_eq_ok.mpr ⟨_, hread, rfl⟩

end fields

/-- An envelope is read back as it is written, but for null. -/
theorem decode_record {m : Medium} {e : Envelope}
    (htopic : Topic.parse e.topic.text = .ok e.topic) (hroom : m.Allows 0 2)
    (hfree : ∀ p ∈ e.free, m.Allows 1 p.value.height) :
    decode m 0 e.record.outline = .ok e.withoutNulls := by
  have hvalue : ∀ p ∈ e.value, m.Allows 1 p.value.height :=
    fun p hp => hfree p (mem_free.mpr (.inl hp))
  have hextra : ∀ p ∈ e.extra, m.Allows 1 p.value.height :=
    fun p hp => hfree p (mem_free.mpr (.inr hp))
  have hread : e.fields.foldlM (readNamed shape (Draft.read m 1)) {}
      = .ok ⟨some e.topic, e.headers, e.path, e.value.filter (· ≠ .null),
          e.status, e.revision, e.timestamp, e.extra.filter (· ≠ .null)⟩ :=
    Result.foldlM_append (Result.foldlM_append (Result.foldlM_append
      (Result.foldlM_append (Result.foldlM_append
        (Result.foldlM_cons (read_topic htopic) (read_headers rfl _ hroom.enter.2))
        (Result.foldlM_cons (read_path _) (read_value rfl hvalue)))
        (read_status rfl _)) (read_revision rfl _)) (read_timestamp rfl _))
      (read_extra rfl hextra)
  have hkeys := e.map_fst_fields
  have hrecord := Outline.readRecord_object (hroom.mono (by decide))
    (fun f hf => hkeys.subset (List.mem_map_of_mem hf))
    ((by decide : shape.fields.Nodup).sublist hkeys) hread
  exact Result.bind_eq_ok.mpr ⟨_, hrecord, rfl⟩

end Envelope

end DeviceTwin
