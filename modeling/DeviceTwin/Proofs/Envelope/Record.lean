/-
Error details and members of sets are read back as they are written.

Inside a payload the fields of a record stand in the order of their keys
and not in that of the record. The two orders hold the same fields, so
the object that is written is the list of the fields in the order of
their keys (`Payload.value_ofPairs`), and reading it is reading those one
after the other. A member whose payload is null is the exception: null
under a key is no content when it is read.
-/
import DeviceTwin.Proofs.Address
import DeviceTwin.Proofs.Outline.Record

namespace DeviceTwin

/-- The fields of an object in the order of their keys. -/
theorem Payload.value_ofPairs {fields sorted : List (String × Payload)}
    (hperm : fields.Perm sorted) (hs : Keyed.Sorted sorted) :
    (Payload.ofPairs fields).value = orderedObject sorted := by
  have hsorted : Keyed.Sorted (sorted.map fun e => (e.1, e.2.value)) :=
    List.pairwise_map.mpr hs
  exact congrArg Value.object
    (Keyed.ofList_eq_of_perm (hperm.map _) hsorted)

-- ====================================================================== sizes

namespace Payload

/-- No floating-point number is in it, and no object in an object. -/
structure Flat (p : Payload) : Prop where
  floatFree : p.value.FloatFree
  height : p.value.height ≤ 1

theorem flat_text (s : String) : (text s).Flat := ⟨trivial, Nat.zero_le 1⟩

theorem flat_int (n : Integer) : Flat ⟨.int n, trivial⟩ := ⟨trivial, Nat.zero_le 1⟩

/-- What is true of the contents of an object. -/
theorem floatFree_ofPairs {fields : List (String × Payload)}
    (h : ∀ f ∈ fields, f.2.value.FloatFree) : (ofPairs fields).value.FloatFree := by
  refine Value.floatFree_ofPairs (Value.entriesFloatFree_iff.mpr fun e he => ?_)
  obtain ⟨f, hf, rfl⟩ := List.mem_map.mp he
  exact h f hf

theorem height_ofPairs_le {fields : List (String × Payload)} {n : Nat}
    (h : ∀ f ∈ fields, f.2.value.height ≤ n) :
    (ofPairs fields).value.height ≤ n + 1 := by
  refine Nat.succ_le_succ (Value.entriesHeight_le fun e he => ?_)
  obtain ⟨f, hf, rfl⟩ := List.mem_map.mp (Keyed.mem_ofList he)
  exact h f hf

end Payload

theorem Headers.flat_payload (h : Headers) : h.payload.Flat := by
  have htext : ∀ f ∈ h.entries.map fun e => (e.1, Payload.text e.2),
      f.2.value.FloatFree ∧ f.2.value.height ≤ 0 := by
    intro f hf
    obtain ⟨e, -, rfl⟩ := List.mem_map.mp hf
    exact ⟨trivial, Nat.le_refl 0⟩
  exact ⟨Payload.floatFree_ofPairs fun f hf => (htext f hf).1,
    Payload.height_ofPairs_le fun f hf => (htext f hf).2⟩

namespace Outline

variable {σ : Type} {m : Medium} {shape : RecordShape} {depth : Nat}
  {read : σ → Nat → Outline → Except DecodeError σ} {draft draft' : σ}

/-- Reading an object that is part of a payload is reading its contents
in the order of their keys. -/
theorem readRecord_ofPairs {fields sorted : List (String × Payload)}
    {names : List String} (hroom : m.Allows depth 1)
    (hperm : fields.Perm sorted)
    (hsub : (sorted.map Prod.fst).Sublist names)
    (hnames : names.Pairwise (· < ·)) (hknown : names ⊆ shape.fields)
    (h : sorted.foldlM (readNamed shape read) draft = .ok draft') :
    readRecord m shape depth read draft (Payload.ofPairs fields).value.outline
      = .ok (draft', shape.missing) := by
  have hs := Keyed.sorted_of_sublist hsub hnames
  rw [Payload.value_ofPairs hperm hs]
  refine readRecord_object hroom (fun e he => ?_) hs.nodup h
  exact hknown (hsub.subset (List.mem_map_of_mem he))

end Outline

open Outline (readNamed)

-- ============================================================= error details

namespace ErrorDetails

/-- The fields in the order of their keys. -/
def sortedFields (e : ErrorDetails) : List (String × Payload) :=
  optionalField "description" (e.description.map .text)
    ++ [("error", .text e.code), ("message", .text e.message)]

theorem flat_of_mem_fields (e : ErrorDetails) :
    ∀ f ∈ e.fields, f.2.value.FloatFree ∧ f.2.value.height ≤ 0 := by
  intro f hf
  rcases List.mem_append.mp hf with hf | hf
  · simp only [List.mem_cons, List.not_mem_nil, or_false] at hf
    obtain rfl | rfl := hf
    · exact ⟨trivial, Nat.le_refl 0⟩
    · exact ⟨trivial, Nat.le_refl 0⟩
  · obtain ⟨s, -, hs⟩ := Option.map_eq_some_iff.mp (Outline.mem_optionalField hf)
    rw [← hs]
    exact ⟨trivial, Nat.le_refl 0⟩

/-- Error details are read back as they are written. -/
theorem decode_payload (e : ErrorDetails) {m : Medium} {depth : Nat}
    (hroom : m.Allows depth 1) :
    decode m depth (Payload.ofPairs e.fields).value.outline = .ok e := by
  have hperm : e.fields.Perm e.sortedFields := List.perm_append_comm
  have hsub : (e.sortedFields.map Prod.fst).Sublist
      ["description", "error", "message"] := by
    unfold sortedFields
    rw [List.map_append]
    exact (Outline.map_fst_optionalField ..).append (List.Sublist.refl _)
  have hread : e.sortedFields.foldlM (readNamed shape Draft.read) {}
      = .ok ⟨some e.code, some e.message, e.description⟩ := by
    unfold sortedFields
    rw [List.foldlM_append, Outline.foldlM_optionalField]
    cases e.description <;> rfl
  have hrecord := Outline.readRecord_ofPairs hroom hperm hsub (by decide)
    (by decide) hread
  exact Result.bind_eq_ok.mpr ⟨_, hrecord, rfl⟩

end ErrorDetails

-- ============================================================ members of sets

namespace MemberRecord

/-- The fields in the order of their keys. -/
def sortedFields (r : MemberRecord) : List (String × Payload) :=
  optionalField "entityId" (r.entity.map fun id => .text id.text)
    ++ headersField r.headers
    ++ ("label", .text r.label)
    :: optionalField "payload" r.payload
    ++ [("status", r.status.payload)]

theorem fields_perm (r : MemberRecord) : r.fields.Perm r.sortedFields := by
  rw [List.perm_iff_count]
  intro e
  simp only [fields, sortedFields, List.count_append, List.count_cons,
    List.count_nil]
  omega

theorem map_fst_sortedFields (r : MemberRecord) :
    (r.sortedFields.map Prod.fst).Sublist
      ["entityId", "headers", "label", "payload", "status"] := by
  have hentity := Outline.map_fst_optionalField "entityId"
    (r.entity.map fun id => .text id.text)
  have hheaders := Outline.map_fst_headersField r.headers
  have hpayload := Outline.map_fst_optionalField "payload" r.payload
  have hhead := (hentity.append hheaders).append (hpayload.cons_cons "label")
  have hall := hhead.append (List.Sublist.refl ["status"])
  unfold sortedFields
  simp only [List.map_append, List.map_cons, List.map_nil]
  exact hall

theorem asEntityId_text (id : EntityId) :
    Outline.asEntityId (.text id.text) = .ok id := by
  simp [Outline.asEntityId, Outline.asText, bind, Except.bind, id.parse?_text]

theorem asStatus_payload (s : Status) :
    Outline.asStatus s.payload.value.outline = .ok s := by
  show (Outline.asUInt16 (.int (.ofUInt16 s.code))).map Status.mk = .ok s
  rw [Outline.asUInt16, Integer.toUInt16?_ofUInt16]
  rfl

/-- The record without a payload that is null. -/
def withoutNull (r : MemberRecord) : MemberRecord :=
  { r with payload := r.payload.filter (· ≠ .null) }

/-- A member is read back as it is written, but for a payload that is null. -/
theorem decode_payload_withoutNull (r : MemberRecord) {m : Medium} {depth : Nat}
    (hroom : m.Allows depth 2) (hpayload : ∀ p ∈ r.payload,
      m.Allows (depth + 1) p.value.height) :
    decode m depth (Payload.ofPairs r.fields).value.outline = .ok r.withoutNull := by
  obtain ⟨label, entity, status, headers, payload⟩ := r
  have hentity : (optionalField "entityId" (entity.map fun id => .text id.text)).foldlM
      (readNamed shape (Draft.read m (depth + 1))) {}
      = .ok { entity } := by
    rw [Outline.foldlM_optionalField]
    cases entity with
    | none => rfl
    | some id =>
        exact Result.bind_eq_ok.mpr ⟨some id,
          Outline.optional_eq_ok (asEntityId_text id) nofun, rfl⟩
  have hheaders : (headersField headers).foldlM
      (readNamed shape (Draft.read m (depth + 1))) { entity }
      = .ok { entity, headers } := by
    rw [Outline.foldlM_headersField]
    split
    case isTrue hempty =>
      rw [hempty]
    case isFalse =>
      exact Result.bind_eq_ok.mpr ⟨headers,
        Outline.asHeaders_payload headers hroom.enter.2, rfl⟩
  have hlabel : readNamed shape (Draft.read m (depth + 1))
      { entity, headers } ("label", .text label)
      = .ok { label := some label, entity, headers } := rfl
  have hcontent : (optionalField "payload" payload).foldlM
      (readNamed shape (Draft.read m (depth + 1)))
      { label := some label, entity, headers }
      = .ok { label := some label, entity, headers,
              payload := payload.filter (· ≠ .null) } := by
    rw [Outline.foldlM_optionalField]
    cases payload with
    | none => rfl
    | some p =>
        have hread := Outline.optional_payload_filter (hpayload p rfl)
        exact Result.bind_eq_ok.mpr ⟨_, hread, rfl⟩
  have hstatus : readNamed shape (Draft.read m (depth + 1))
      { label := some label, entity, headers, payload := payload.filter (· ≠ .null) }
      ("status", status.payload)
      = .ok ⟨some label, entity, some status, headers, payload.filter (· ≠ .null)⟩ :=
    Result.bind_eq_ok.mpr ⟨status, asStatus_payload status, rfl⟩
  have hread : (sortedFields ⟨label, entity, status, headers, payload⟩).foldlM
      (readNamed shape (Draft.read m (depth + 1))) {}
      = .ok ⟨some label, entity, some status, headers, payload.filter (· ≠ .null)⟩ :=
    Result.foldlM_append (Result.foldlM_append
      (Result.foldlM_append hentity hheaders)
      (Result.foldlM_cons hlabel hcontent))
      (Result.foldlM_cons hstatus rfl)
  have hrecord := Outline.readRecord_ofPairs (hroom.mono (by decide))
    (fields_perm _) (map_fst_sortedFields _) (by decide) (by decide) hread
  exact Result.bind_eq_ok.mpr ⟨_, hrecord, rfl⟩

/-- All fields of a member are flat but its payload. -/
theorem flat_or_payload {r : MemberRecord} {f : String × Payload}
    (hf : f ∈ r.fields) : f.2.Flat ∨ f.2 ∈ r.payload := by
  simp only [fields, List.cons_append, List.mem_cons, List.mem_append] at hf
  obtain rfl | (hf | rfl | hf) | hf := hf
  · exact .inl (Payload.flat_text _)
  · obtain ⟨id, -, hid⟩ := Option.map_eq_some_iff.mp (Outline.mem_optionalField hf)
    exact .inl (hid ▸ Payload.flat_text _)
  · exact .inl (Payload.flat_int _)
  · exact .inl (Outline.mem_headersField hf ▸ r.headers.flat_payload)
  · exact .inr (Outline.mem_optionalField hf)

end MemberRecord

end DeviceTwin
