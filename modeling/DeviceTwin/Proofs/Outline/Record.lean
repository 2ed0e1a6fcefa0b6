/-
Records, field by field.

Reading a record comes to reading its fields one after the other, each
under its index. In one direction this holds of every record that could
be read, in either of its two forms (`readRecord_eq_ok`): whatever the
fields of a draft keep, the record keeps. In the other direction it holds of
objects whose keys are texts, no two of them alike
(`readEntries_outlineEntries`); their order does not matter here, and under
the name of no field anything may stand that can be skipped. An object that
was written has only names of fields as its keys (`readRecord_object`).
-/
import DeviceTwin.Envelope.Record
import DeviceTwin.Proofs.Outline.Value

namespace DeviceTwin

/-- Headers are written as an object in their order. -/
theorem Headers.value_payload (h : Headers) :
    h.payload.value = .object (h.entries.map fun e => (e.1, .text e.2)) := by
  have hsorted : Keyed.Sorted (h.entries.map fun e => (e.1, Value.text e.2)) :=
    List.pairwise_map.mpr h.sorted
  unfold payload
  show Value.object (Keyed.ofList ((h.entries.map _).map _)) = _
  rw [List.map_map]
  exact congrArg Value.object (Keyed.ofList_of_sorted hsorted)

namespace Outline

variable {σ : Type} {m : Medium} {shape : RecordShape} {depth : Nat}
  {read : σ → Nat → Outline → Except DecodeError σ} {draft draft' : σ}

-- =================================================================== indices

/-- The index of the field with a name. -/
def RecordShape.index (shape : RecordShape) (name : String) : Nat :=
  shape.fields.idxOf name

theorem RecordShape.fieldIndex?_text {name : String}
    (h : name ∈ shape.fields) :
    shape.fieldIndex? (.text name) = .ok (some (shape.index name)) := by
  have hindex := List.findIdx?_eq_some_iff_findIdx_eq.mpr
    ⟨List.idxOf_lt_length_iff.mpr h, rfl⟩
  exact congrArg Except.ok hindex

/-- No field is named for another text. -/
theorem RecordShape.fieldIndex?_text_of_not_mem {name : String}
    (h : name ∉ shape.fields) : shape.fieldIndex? (.text name) = .ok none := by
  refine congrArg Except.ok (List.findIdx?_eq_none_iff.mpr fun field hfield => ?_)
  rw [beq_eq_false_iff_ne]
  rintro rfl
  exact h hfield

/-- What is read as which field. -/
def recordFields (shape : RecordShape) : Outline → List (Nat × Outline)
  | .object entries => entries.filterMap fun (key, item) =>
      match shape.fieldIndex? key with
      | .ok (some i) => some (i, item)
      | _ => none
  | .list items => items.zipIdx.map fun (item, i) => (i, item)
  | _ => []

-- =================================================================== reading

theorem readEntries_eq_ok {entries : List (Outline × Outline)} :
    ∀ {seen : List Nat} {draft : σ},
      readEntries m shape depth read seen draft entries = .ok draft' →
      (recordFields shape (.object entries)).foldlM
        (fun d e => read d e.1 e.2) draft = .ok draft' := by
  induction entries with
  | nil => exact fun h => h
  | cons e entries ih =>
      intro seen draft h
      obtain ⟨key, item⟩ := e
      rw [readEntries] at h
      obtain ⟨i?, hindex, h⟩ := Result.bind_eq_ok.mp h
      cases i? with
      | none =>
          obtain ⟨-, -, h⟩ := Result.bind_eq_ok.mp h
          have hrest := ih h
          simp only [recordFields, List.filterMap_cons, hindex]
          exact hrest
      | some i =>
          simp only at h
          split at h
          · cases h
          · obtain ⟨d, hd, h⟩ := Result.bind_eq_ok.mp h
            have hrest := ih h
            simp only [recordFields, List.filterMap_cons, hindex]
            exact Result.bind_eq_ok.mpr ⟨d, hd, hrest⟩

theorem readItems_eq_ok {total : Nat} {items : List Outline} :
    ∀ {i : Nat} {draft : σ},
      readItems m shape total read i draft items = .ok draft' →
      ((items.zipIdx i).map fun (item, i) => (i, item)).foldlM
        (fun d e => read d e.1 e.2) draft = .ok draft' := by
  induction items with
  | nil => exact fun h => h
  | cons item items ih =>
      intro i draft h
      rw [readItems] at h
      split at h
      · obtain ⟨d, hd, h⟩ := Result.bind_eq_ok.mp h
        exact Result.bind_eq_ok.mpr ⟨d, hd, ih h⟩
      · split at h <;> cases h

/-- A record that could be read was read field by field. -/
theorem readRecord_eq_ok {o : Outline} {missing : Nat → DecodeError}
    (h : readRecord m shape depth read draft o = .ok (draft', missing)) :
    (o.recordFields shape).foldlM (fun d e => read d e.1 e.2) draft
      = .ok draft' := by
  cases o with
  | object entries =>
      obtain ⟨_, -, h⟩ := Result.bind_eq_ok.mp h
      obtain ⟨d, hd, h⟩ := Result.bind_eq_ok.mp h
      obtain ⟨rfl, -⟩ := Prod.mk.inj (Except.ok.inj h)
      exact readEntries_eq_ok hd
  | list items =>
      obtain ⟨_, -, h⟩ := Result.bind_eq_ok.mp h
      obtain ⟨d, hd, h⟩ := Result.bind_eq_ok.mp h
      obtain ⟨rfl, -⟩ := Prod.mk.inj (Except.ok.inj h)
      exact readItems_eq_ok hd
  | null | bool | int | float | notFinite | text | bytes | unfit | broken =>
      cases h

theorem RecordShape.lt_of_fieldIndex? {key : Outline} {i : Nat}
    (h : shape.fieldIndex? key = .ok (some i)) : i < shape.fields.length := by
  cases key with
  | text s =>
      have hfound := Except.ok.inj h
      exact (List.findIdx?_eq_some_iff_findIdx_eq.mp hfound).1
  | bytes b =>
      have hfound := Except.ok.inj h
      exact (List.findIdx?_eq_some_iff_findIdx_eq.mp hfound).1
  | int n =>
      simp only [fieldIndex?] at h
      split at h
      · have hfound := Except.ok.inj h
        split at hfound
        case isTrue hlt =>
          obtain rfl := Option.some.inj hfound
          exact hlt
        case isFalse => cases hfound
      · cases h
  | null | bool | float | notFinite | list | object | unfit | broken => cases h

theorem length_of_readItems {total : Nat} {items : List Outline} :
    ∀ {i : Nat} {draft : σ},
      readItems m shape total read i draft items = .ok draft' →
      items ≠ [] → i + items.length ≤ shape.fields.length := by
  induction items with
  | nil => exact fun _ hne => absurd rfl hne
  | cons item items ih =>
      intro i draft h _
      rw [readItems] at h
      split at h
      case isTrue hlt =>
        obtain ⟨d, -, h⟩ := Result.bind_eq_ok.mp h
        by_cases hlast : items = []
        · subst hlast
          exact hlt
        · have := ih h hlast
          rw [List.length_cons]
          omega
      case isFalse => split at h <;> cases h

/-- All that is read of a record is fields of it. -/
theorem lt_of_mem_recordFields {o : Outline} {missing : Nat → DecodeError}
    (h : readRecord m shape depth read draft o = .ok (draft', missing))
    {i : Nat} {item : Outline} (hmem : (i, item) ∈ o.recordFields shape) :
    i < shape.fields.length := by
  cases o with
  | object entries =>
      obtain ⟨⟨key, item'⟩, -, heq⟩ := List.mem_filterMap.mp hmem
      simp only at heq
      split at heq
      case h_1 j hindex =>
        obtain ⟨rfl, -⟩ := Prod.mk.inj (Option.some.inj heq)
        exact RecordShape.lt_of_fieldIndex? hindex
      case h_2 => cases heq
  | list items =>
      obtain ⟨_, -, h⟩ := Result.bind_eq_ok.mp h
      obtain ⟨d, hd, -⟩ := Result.bind_eq_ok.mp h
      obtain ⟨⟨item', j⟩, hitem, heq⟩ := List.mem_map.mp hmem
      obtain ⟨rfl, rfl⟩ := Prod.mk.inj heq
      have hne : items ≠ [] := List.ne_nil_of_mem (List.fst_mem_of_mem_zipIdx hitem)
      have hlength := length_of_readItems hd hne
      have hlt := List.snd_lt_of_mem_zipIdx hitem
      omega
  | null | bool | int | float | notFinite | text | bytes | unfit | broken =>
      cases hmem

/-- What is read as a field of a value that was decoded before is a part
of the value. -/
theorem part_of_mem_recordFields {v : Value} {i : Nat} {item : Outline}
    (h : (i, item) ∈ v.outline.recordFields shape) :
    ∃ w : Value, w.IsPart v ∧ item = w.outline := by
  cases v with
  | list items =>
      obtain ⟨⟨item', j⟩, hmem, heq⟩ := List.mem_map.mp h
      obtain ⟨rfl, rfl⟩ := Prod.mk.inj heq
      have hitem := List.fst_mem_of_mem_zipIdx hmem
      rw [Value.outlines_eq_map] at hitem
      obtain ⟨w, hw, rfl⟩ := List.mem_map.mp hitem
      exact ⟨w, .item hw, rfl⟩
  | object entries =>
      obtain ⟨⟨key, item'⟩, hmem, heq⟩ := List.mem_filterMap.mp h
      rw [Value.outlineEntries_eq_map] at hmem
      obtain ⟨e, he, hpair⟩ := List.mem_map.mp hmem
      obtain ⟨rfl, rfl⟩ := Prod.mk.inj hpair
      simp only at heq
      split at heq
      · obtain ⟨-, rfl⟩ := Prod.mk.inj (Option.some.inj heq)
        exact ⟨e.2, .content he, rfl⟩
      · cases heq
  | null | bool | int | float | text => cases h

-- =================================================================== writing

/-- Reads the content of a field by the name of the field. -/
def readNamed (shape : RecordShape)
    (read : σ → Nat → Outline → Except DecodeError σ) (d : σ)
    (e : String × Payload) : Except DecodeError σ :=
  read d (shape.index e.1) e.2.value.outline

/-- Entries under names of fields are read as these fields. -/
theorem recordFields_named {fields : List (String × Payload)}
    (hknown : ∀ e ∈ fields, e.1 ∈ shape.fields) :
    recordFields shape (orderedObject fields).outline
      = fields.map fun e => (shape.index e.1, e.2.value.outline) := by
  show (Value.outlineEntries (fields.map fun e => (e.1, e.2.value))).filterMap _ = _
  rw [Value.outlineEntries_eq_map, List.map_map, List.filterMap_map, ← List.filterMap_eq_map]
  refine List.filterMap_congr fun e he => ?_
  simp only [Function.comp, RecordShape.fieldIndex?_text (hknown e he)]

/-- Entries under different keys are read one after the other, where what
no field is named for can be skipped. -/
theorem readEntries_outlineEntries {entries : List (String × Value)} :
    ∀ {seen : List Nat} {draft : σ}, (entries.map Prod.fst).Nodup →
      (∀ e ∈ entries, e.1 ∉ shape.fields → skip m depth e.2.outline = .ok ()) →
      (∀ e ∈ entries, e.1 ∈ shape.fields → shape.index e.1 ∉ seen) →
      readEntries m shape depth read seen draft (Value.outlineEntries entries)
        = (recordFields shape (.object (Value.outlineEntries entries))).foldlM
            (fun d e => read d e.1 e.2) draft := by
  induction entries with
  | nil => exact fun _ _ _ => rfl
  | cons e entries ih =>
      intro seen draft hnodup hskip hseen
      obtain ⟨name, v⟩ := e
      rw [List.map_cons, List.nodup_cons] at hnodup
      have hskip' := fun e he => hskip e (List.mem_cons_of_mem _ he)
      have hseen' := fun e he => hseen e (List.mem_cons_of_mem _ he)
      by_cases hname : name ∈ shape.fields
      · have hindex := RecordShape.fieldIndex?_text hname
        have hnew : seen.contains (shape.index name) = false := by
          simpa using hseen (name, v) List.mem_cons_self hname
        have hlater : ∀ e ∈ entries, e.1 ∈ shape.fields →
            shape.index e.1 ∉ shape.index name :: seen := by
          intro e he hknown hmem
          rcases List.mem_cons.mp hmem with heq | hmem
          · have hsame : e.1 = name := (List.idxOf_inj hknown).mp heq
            have hkey : e.1 ∈ entries.map Prod.fst := List.mem_map_of_mem he
            rw [hsame] at hkey
            exact hnodup.1 hkey
          · exact hseen' e he hknown hmem
        simp only [Value.outlineEntries, recordFields, List.filterMap_cons, readEntries, hindex,
          hnew, bind, Except.bind, Bool.false_eq_true, if_false, List.foldlM_cons]
        cases read draft (shape.index name) v.outline with
        | error err => rfl
        | ok d => exact ih hnodup.2 hskip' hlater
      · have hindex := RecordShape.fieldIndex?_text_of_not_mem hname
        have hskipped := hskip (name, v) List.mem_cons_self hname
        simp only [Value.outlineEntries, recordFields, List.filterMap_cons, readEntries, hindex,
          hskipped, bind, Except.bind]
        exact ih hnodup.2 hskip' hseen'

/-- Reading an object whose keys are different names of fields is reading
its contents one after the other. -/
theorem readRecord_object {fields : List (String × Payload)}
    (hroom : m.Allows depth 1)
    (hknown : ∀ e ∈ fields, e.1 ∈ shape.fields)
    (hnodup : (fields.map Prod.fst).Nodup)
    (h : fields.foldlM (readNamed shape read) draft = .ok draft') :
    readRecord m shape depth read draft (orderedObject fields).outline
      = .ok (draft', shape.missing) := by
  obtain ⟨henter, -⟩ := hroom.enter
  have hkeys : ((fields.map fun e => (e.1, e.2.value)).map Prod.fst).Nodup := by
    rwa [List.map_map]
  have hnames : ∀ e ∈ fields.map fun e => (e.1, e.2.value), e.1 ∈ shape.fields := by
    intro e he
    obtain ⟨f, hf, rfl⟩ := List.mem_map.mp he
    exact hknown f hf
  have hread : (recordFields shape (orderedObject fields).outline).foldlM
      (fun d e => read d e.1 e.2) draft = .ok draft' := by
    rw [recordFields_named hknown, List.foldlM_map]
    exact h
  have hentries : readEntries m shape (depth + 1) read [] draft
        (Value.outlineEntries (fields.map fun e => (e.1, e.2.value)))
      = .ok draft' :=
    (readEntries_outlineEntries hkeys (fun e he hne => absurd (hnames e he) hne)
      fun _ _ _ => List.not_mem_nil).trans hread
  exact Result.bind_eq_ok.mpr ⟨(), henter,
    Result.bind_eq_ok.mpr ⟨draft', hentries, rfl⟩⟩

-- =========================================================== optional contents

/-- A field that is left out is not read. -/
theorem foldlM_optionalField (name : String) (content : Option Payload)
    (f : σ → String × Payload → Except DecodeError σ) (d : σ) :
    (optionalField name content).foldlM f d
      = match content with
        | some p => f d (name, p)
        | none => .ok d := by
  cases content with
  | none => rfl
  | some p =>
      show (f d (name, p) >>= fun d' => pure d') = _
      rw [bind_pure]

theorem mem_optionalField {name : String} {content : Option Payload}
    {f : String × Payload} (h : f ∈ optionalField name content) :
    f.2 ∈ content := by
  obtain ⟨p, hp, rfl⟩ := Option.map_eq_some_iff.mp (Option.mem_toList.mp h)
  exact hp

theorem map_fst_optionalField (name : String) (content : Option Payload) :
    ((optionalField name content).map Prod.fst).Sublist [name] := by
  cases content with
  | none => exact List.nil_sublist _
  | some p => exact List.Sublist.refl _

/-- Headers that are left out are empty. -/
theorem foldlM_headersField (h : Headers)
    (f : σ → String × Payload → Except DecodeError σ) (d : σ) :
    (headersField h).foldlM f d
      = if h = .empty then .ok d else f d ("headers", h.payload) := by
  obtain ⟨entries, hs⟩ := h
  cases entries with
  | nil => rfl
  | cons e entries =>
      rw [if_neg (fun heq => by cases heq)]
      show (f d _ >>= fun d' => pure d') = _
      rw [bind_pure]

theorem mem_headersField {h : Headers} {f : String × Payload}
    (hf : f ∈ headersField h) : f.2 = h.payload := by
  unfold headersField at hf
  split at hf
  · cases hf
  · rw [List.mem_singleton.mp hf]

theorem map_fst_headersField (h : Headers) :
    ((headersField h).map Prod.fst).Sublist ["headers"] := by
  unfold headersField
  split
  · exact List.nil_sublist _
  · exact List.Sublist.refl _

/-- What is not null is a content. -/
theorem optional_eq_ok {α : Type} {decode : Outline → Except DecodeError α}
    {o : Outline} {a : α} (h : decode o = .ok a) (hne : o ≠ .null) :
    optional decode o = .ok (some a) := by
  cases o with
  | null => exact absurd rfl hne
  | bool | int | float | notFinite | text | bytes | list | object | unfit
  | broken => exact congrArg (Except.map some) h

/-- A payload that is not null is read as the content that it is. -/
theorem optional_payload {p : Payload} (hroom : m.Allows depth p.value.height)
    (hp : p ≠ .null) :
    optional (payload m depth) p.value.outline = .ok (some p) := by
  refine optional_eq_ok (payload_outline p hroom) fun hnull => hp ?_
  obtain ⟨v, hv⟩ := p
  obtain rfl : v = .null := Value.outline_eq_null.mp hnull
  rfl

/-- A payload is read as the content that it is, if it is one. -/
theorem optional_payload_filter {p : Payload}
    (hroom : m.Allows depth p.value.height) :
    optional (payload m depth) p.value.outline
      = .ok ((some p).filter (· ≠ .null)) := by
  by_cases hnull : p = .null
  · subst hnull
    rfl
  · rw [optional_payload hroom hnull, Option.filter_some,
      if_pos (decide_eq_true hnull)]

/-- A content that is not null is all content. -/
theorem filter_ne_null {content : Option Payload} (h : ∀ p ∈ content, p ≠ .null) :
    content.filter (· ≠ .null) = content := by
  cases content with
  | none => rfl
  | some p => exact if_pos (decide_eq_true (h p rfl))

-- =================================================================== headers

/-- Headers are read back as they are written. -/
theorem asHeaders_payload (h : Headers) (hroom : m.Allows depth 1) :
    asHeaders m depth h.payload.value.outline = .ok h := by
  obtain ⟨henter, -⟩ := hroom.enter
  have hread : ∀ entries : List (String × String),
      (Value.outlineEntries (entries.map fun e => (e.1, .text e.2))).mapM
        (fun (key, item) => do
          let key ← keyText key
          let item ← item.asText
          return (key, item)) = .ok entries := by
    intro entries
    induction entries with
    | nil => rfl
    | cons e entries ih =>
        rw [List.map_cons, Value.outlineEntries, List.mapM_cons, ih]
        rfl
  rw [h.value_payload]
  refine Result.bind_eq_ok.mpr ⟨(), henter,
    Result.bind_eq_ok.mpr ⟨h.entries, hread h.entries, ?_⟩⟩
  have hentries := Keyed.ofList_of_sorted h.sorted
  cases h
  simp only [Headers.ofPairs, hentries]
  rfl

end Outline

end DeviceTwin
