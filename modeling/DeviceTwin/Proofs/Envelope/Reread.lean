/-
What an envelope that was written is read as, if it is read.

Floating-point numbers need not come back from a text, and free values may
nest too deeply for the medium. Neither touches the other fields: whenever
an envelope is read from what was written, it has the headers, the path and
the other plain fields that were written, its topic is what the text of the
topic is parsed as, and the free values did not nest too deeply
(`rereads_of_decode`). So nothing that is read was not written.
-/
import DeviceTwin.Proofs.Envelope.Wire

namespace DeviceTwin

-- ==================================================================== nesting

namespace Medium

variable {m : Medium} {depth : Nat}

theorem allows_of_enter (h : m.enter depth = .ok ()) : m.Allows depth 1 := by
  intro limit hlimit
  simp only [enter, admits, Option.mem_def.mp hlimit] at h
  split at h
  case isTrue hlt => exact of_decide_eq_true hlt
  case isFalse => cases h

theorem Allows.inside {height : Nat} (h : m.Allows (depth + 1) height) :
    m.Allows depth (height + 1) := by
  intro limit hlimit
  have := h limit hlimit
  omega

theorem Allows.max {height height' : Nat} (h : m.Allows depth height)
    (h' : m.Allows depth height') : m.Allows depth (max height height') := by
  intro limit hlimit
  have := h limit hlimit
  have := h' limit hlimit
  omega

end Medium

namespace Outline

variable {m : Medium} {leaf : Double → Outline}

mutual

/-- Values that are read do not nest too deeply. -/
theorem allows_of_value {depth : Nat} {v w : Value} (hdepth : m.Allows depth 0)
    (h : value m depth (v.outlineBy leaf) = .ok w) : m.Allows depth v.height := by
  cases v with
  | null | bool | int | float | text => exact hdepth
  | list items =>
      obtain ⟨_, henter, h⟩ := Result.bind_eq_ok.mp h
      obtain ⟨ws, hws, -⟩ := Result.bind_eq_ok.mp h
      exact (allows_of_values (Medium.allows_of_enter henter).enter.2 hws).inside
  | object entries =>
      obtain ⟨_, henter, h⟩ := Result.bind_eq_ok.mp h
      split at h
      · obtain ⟨ws, hws, -⟩ := Result.bind_eq_ok.mp h
        exact (allows_of_pairs (Medium.allows_of_enter henter).enter.2 hws).inside
      · cases h

theorem allows_of_values {depth : Nat} {items ws : List Value}
    (hdepth : m.Allows depth 0)
    (h : values m depth (Value.outlinesBy leaf items) = .ok ws) :
    m.Allows depth (Value.listHeight items) := by
  cases items with
  | nil => exact hdepth
  | cons v items =>
      obtain ⟨w, hw, h⟩ := Result.bind_eq_ok.mp h
      obtain ⟨ws, hws, -⟩ := Result.bind_eq_ok.mp h
      exact (allows_of_value hdepth hw).max (allows_of_values hdepth hws)

theorem allows_of_pairs {depth : Nat} {entries ws : List (String × Value)}
    (hdepth : m.Allows depth 0)
    (h : pairs m depth (Value.outlineEntriesBy leaf entries) = .ok ws) :
    m.Allows depth (Value.entriesHeight entries) := by
  match entries with
  | [] => exact hdepth
  | (key, v) :: entries =>
      obtain ⟨_, -, h⟩ := Result.bind_eq_ok.mp h
      obtain ⟨w, hw, h⟩ := Result.bind_eq_ok.mp h
      obtain ⟨ws, hws, -⟩ := Result.bind_eq_ok.mp h
      exact (allows_of_value hdepth hw).max (allows_of_pairs hdepth hws)

end

/-- What is read as null is no list and no object. -/
theorem height_of_outlineBy_eq_null {v : Value} (h : v.outlineBy leaf = .null) :
    v.height = 0 := by
  cases v with
  | list | object => cases h
  | null | bool | int | float | text => rfl

theorem allows_of_optional {depth : Nat} {p : Payload} {content : Option Payload}
    (hdepth : m.Allows depth 0)
    (h : optional (payload m depth) (p.value.outlineBy leaf) = .ok content) :
    m.Allows depth p.value.height := by
  cases content with
  | some q =>
      obtain ⟨-, hread⟩ := optional_eq_some h
      exact allows_of_value hdepth (value_of_payload hread)
  | none =>
      unfold optional at h
      split at h
      case h_1 hnull =>
        rw [height_of_outlineBy_eq_null hnull]
        exact hdepth
      case h_2 =>
        obtain ⟨_, -, h⟩ := Result.map_eq_ok.mp h
        cases h

-- ===================================================================== fields

variable {σ : Type} {shape : RecordShape} {depth : Nat}
  {read : σ → Nat → Outline → Except DecodeError σ} {draft draft' : σ}

/-- Reads the content of a field by the name of the field, with its
floating-point numbers as `leaf` has them. -/
def readNamedBy (leaf : Double → Outline) (shape : RecordShape)
    (read : σ → Nat → Outline → Except DecodeError σ) (d : σ)
    (e : String × Payload) : Except DecodeError σ :=
  read d (shape.index e.1) (e.2.value.outlineBy leaf)

theorem recordFields_orderedObject {fields : List (String × Payload)}
    (hknown : ∀ f ∈ fields, f.1 ∈ shape.fields) :
    ((orderedObject fields).outlineBy leaf).recordFields shape
      = fields.map fun f => (shape.index f.1, f.2.value.outlineBy leaf) := by
  unfold orderedObject
  rw [Value.outlineBy, Value.outlineEntriesBy_eq_map, recordFields, List.map_map,
    List.filterMap_map]
  refine (List.filterMap_congr fun f hf => ?_).trans
    (congrFun List.filterMap_eq_map fields)
  simp only [Function.comp_apply, RecordShape.fieldIndex?_text (hknown f hf)]

/-- An object that was written is read field by field. -/
theorem foldlM_of_readRecord {fields : List (String × Payload)}
    {missing : Nat → DecodeError} (hknown : ∀ f ∈ fields, f.1 ∈ shape.fields)
    (h : readRecord m shape depth read draft ((orderedObject fields).outlineBy leaf)
      = .ok (draft', missing)) :
    fields.foldlM (readNamedBy leaf shape read) draft = .ok draft' := by
  have hread := readRecord_eq_ok h
  rw [recordFields_orderedObject hknown, List.foldlM_map] at hread
  exact hread

/-- A field without floating-point numbers is read as it is. -/
theorem foldlM_readNamedBy {fields : List (String × Payload)}
    (hfloat : ∀ f ∈ fields, f.2.value.FloatFree) :
    fields.foldlM (readNamedBy leaf shape read) draft
      = fields.foldlM (readNamed shape read) draft := by
  induction fields generalizing draft with
  | nil => rfl
  | cons f fields ih =>
      have hf : f.2.value.outlineBy leaf = f.2.value.outline :=
        Value.outlineBy_eq (.inr (hfloat f List.mem_cons_self))
      simp only [List.foldlM_cons, readNamedBy, readNamed, hf]
      exact congrArg _ (funext fun d =>
        ih fun g hg => hfloat g (List.mem_cons_of_mem _ hg))

end Outline

-- ================================================================== envelopes

namespace Envelope

open Outline (readNamed readNamedBy)

variable {m : Medium} {leaf : Double → Outline}

/-- An envelope that was read and the one that was written. -/
structure Rereads (m : Medium) (e e' : Envelope) : Prop where
  topic : Topic.parse e.topic.text = .ok e'.topic
  headers : e'.headers = e.headers
  path : e'.path = e.path
  status : e'.status = e.status
  revision : e'.revision = e.revision
  timestamp : e'.timestamp = e.timestamp
  room : ∀ p ∈ e.free, m.Allows 1 p.value.height

theorem parse_of_asTopic {s : String} {t : Topic}
    (h : Outline.asTopic (.text s) = .ok t) : Topic.parse s = .ok t := by
  obtain ⟨s', hs, h⟩ := Result.bind_eq_ok.mp h
  obtain rfl := Except.ok.inj hs
  split at h
  case h_1 hparse =>
    obtain rfl := Except.ok.inj h
    exact hparse
  case h_2 => cases h

section fields

variable {depth : Nat} {d d' : Draft} {content : Option Payload}

theorem read_topic_eq_ok {t : Topic}
    (h : readNamedBy leaf shape (Draft.read m depth) d ("topic", .text t.text) = .ok d') :
    ∃ t', Topic.parse t.text = .ok t' ∧ d' = { d with topic := some t' } := by
  obtain ⟨t', ht, h⟩ := Result.bind_eq_ok.mp h
  exact ⟨t', parse_of_asTopic ht, (Except.ok.inj h).symm⟩

/-- A field of free values touches no other, and they did not nest too deeply. -/
theorem read_free_eq_ok {name : String} (put : Draft → Option Payload → Draft)
    (hkeep : ∃ v, put d v = d) (hdepth : m.Allows depth 0)
    (hread : ∀ o, Draft.read m depth d (shape.index name) o
      = (o.optional (Outline.payload m depth) >>= fun v => .ok (put d v)))
    (h : (optionalField name content).foldlM
      (readNamedBy leaf shape (Draft.read m depth)) d = .ok d') :
    (∃ v, d' = put d v) ∧ ∀ p ∈ content, m.Allows depth p.value.height := by
  rw [Outline.foldlM_optionalField] at h
  cases content with
  | none =>
      obtain rfl := Except.ok.inj h
      obtain ⟨v, hv⟩ := hkeep
      exact ⟨⟨v, hv.symm⟩, nofun⟩
  | some p =>
      obtain ⟨v, hv, h⟩ := Result.bind_eq_ok.mp ((hread _).symm.trans h)
      refine ⟨⟨v, (Except.ok.inj h).symm⟩, fun q hq => ?_⟩
      obtain rfl := Option.some.inj hq
      exact Outline.allows_of_optional hdepth hv

/-- A plain field is read as it is. -/
theorem read_plain_eq_ok {α : Type} {name : String} {x : Option α}
    {payload : α → Payload} {d'' : Draft}
    (h : (optionalField name (x.map payload)).foldlM
      (readNamedBy leaf shape (Draft.read m depth)) d = .ok d')
    (hflat : ∀ a, (payload a).Flat)
    (hplain : (optionalField name (x.map payload)).foldlM
      (readNamed shape (Draft.read m depth)) d = .ok d'') : d' = d'' := by
  rw [Outline.foldlM_readNamedBy, hplain] at h
  · exact (Except.ok.inj h).symm
  · intro f hf
    obtain ⟨a, -, ha⟩ := Option.map_eq_some_iff.mp (Outline.mem_optionalField hf)
    exact ha ▸ (hflat a).floatFree

end fields

/-- Whatever is read has been written. -/
theorem rereads_of_decode {e e' : Envelope} (hroom : m.Allows 0 2)
    (h : decode m 0 (e.record.outlineBy leaf) = .ok e') : Rereads m e e' := by
  have hdepth : m.Allows 1 0 := hroom.enter.2.mono (Nat.zero_le 1)
  obtain ⟨⟨d, missing⟩, hrecord, he⟩ := Result.bind_eq_ok.mp h
  have hread := Outline.foldlM_of_readRecord
    (fun f hf => e.map_fst_fields.subset (List.mem_map_of_mem hf)) hrecord
  -- field by field, the last one first
  obtain ⟨d₆, hread, hextra⟩ := Result.foldlM_append_eq_ok hread
  obtain ⟨d₅, hread, htimestamp⟩ := Result.foldlM_append_eq_ok hread
  obtain ⟨d₄, hread, hrevision⟩ := Result.foldlM_append_eq_ok hread
  obtain ⟨d₃, hread, hstatus⟩ := Result.foldlM_append_eq_ok hread
  obtain ⟨d₂, hread, hvalue⟩ := Result.foldlM_append_eq_ok hread
  obtain ⟨d₁, htopic, hheaders⟩ := Result.foldlM_cons_eq_ok hread
  obtain ⟨d₀, hpath, hvalue⟩ := Result.foldlM_cons_eq_ok hvalue
  obtain ⟨t, hparse, rfl⟩ := read_topic_eq_ok htopic
  rw [Outline.foldlM_readNamedBy fun f hf =>
    Outline.mem_headersField hf ▸ e.headers.flat_payload.floatFree,
    read_headers rfl _ hroom.enter.2] at hheaders
  obtain rfl := Except.ok.inj hheaders
  obtain rfl := Except.ok.inj ((read_path e.path).symm.trans hpath)
  obtain ⟨⟨v, rfl⟩, hvalueRoom⟩ := read_free_eq_ok (fun d v => { d with value := v })
    ⟨none, rfl⟩ hdepth (fun _ => rfl) hvalue
  obtain rfl := read_plain_eq_ok hstatus (fun _ => Payload.flat_int _) (read_status rfl _)
  obtain rfl := read_plain_eq_ok hrevision (fun _ => Payload.flat_int _)
    (read_revision rfl _)
  obtain rfl := read_plain_eq_ok htimestamp (fun _ => Payload.flat_text _)
    (read_timestamp rfl _)
  obtain ⟨⟨x, rfl⟩, hextraRoom⟩ := read_free_eq_ok (fun d x => { d with extra := x })
    ⟨none, rfl⟩ hdepth (fun _ => rfl) hextra
  obtain rfl := Except.ok.inj he
  refine ⟨hparse, rfl, rfl, rfl, rfl, rfl, fun p hp => ?_⟩
  rcases mem_free.mp hp with hp | hp
  · exact hvalueRoom p hp
  · exact hextraRoom p hp

end Envelope

end DeviceTwin
