/-
The fields of records in values that were decoded before.

Such a value shows without a reader what stands in a field of a record: in an
object what stands under its name, in a list what stands at its place
(`Value.field?`). A reader finds just that (`mem_recordFields`), so neither the
order of an object nor what stands under other names can make a difference.

What a record is read into is made of parts, one for each field (`Slot`). A
value can be read if it has the form of a record and all fields that are there
can be read (`exists_readRecord`); then every part of the result is what its
field says, or what it was before where the field is missing (`Slot.fills`).
-/
import DeviceTwin.Proofs.Outline.Record
import Mathlib.Data.List.Nodup

namespace DeviceTwin

namespace Value

/-- An object, or a list that has no more items than the record has fields. -/
def IsRecord (shape : Outline.RecordShape) : Value → Prop
  | .object _ => True
  | .list items => items.length ≤ shape.fields.length
  | _ => False

instance (shape : Outline.RecordShape) : DecidablePred (IsRecord shape)
  | .object _ => .isTrue trivial
  | .list items => inferInstanceAs (Decidable (items.length ≤ shape.fields.length))
  | .null | .bool _ | .int _ | .float _ | .text _ => .isFalse id

/-- What stands in a field of a record, if the field is there. -/
def field? (shape : Outline.RecordShape) (name : String) : Value → Option Value
  | .object entries => Keyed.find? name entries
  | .list items => items[shape.index name]?
  | _ => none

/-- What stands in a field of a payload is a part of it, and a payload itself. -/
theorem Canonical.isPart_field? {shape : Outline.RecordShape} {name : String} {v w : Value}
    (hc : v.Canonical) (hw : v.field? shape name = some w) : w.IsPart v := by
  cases v with
  | object entries =>
      have hentry : (name, w) ∈ entries := hc.1.find?_eq_some.mp hw
      exact .content hentry
  | list items => exact .item (List.mem_of_getElem? hw)
  | null | bool | int | float | text => cases hw

theorem Canonical.field? {shape : Outline.RecordShape} {name : String} {v w : Value}
    (hc : v.Canonical) (hw : v.field? shape name = some w) : w.Canonical :=
  (hc.isPart_field? hw).canonical hc

end Value

namespace Outline

-- =================================================================== skipping

mutual

/-- A value that was decoded before can be skipped. -/
theorem skip_outline {m : Medium} (hm : m.limitsSkipped = false) (depth : Nat) (v : Value) :
    skip m depth v.outline = .ok () := by
  cases v with
  | null | bool | int | float | text => rfl
  | list items =>
      simp only [Value.outline, skip, hm, Bool.false_eq_true, if_false]
      exact skipItems_outlines hm (depth + 1) items
  | object entries =>
      simp only [Value.outline, skip, hm, Bool.false_eq_true, if_false]
      exact skipEntries_outlineEntries hm (depth + 1) entries

theorem skipItems_outlines {m : Medium} (hm : m.limitsSkipped = false) (depth : Nat)
    (items : List Value) : skipItems m depth (Value.outlines items) = .ok () := by
  cases items with
  | nil => rfl
  | cons v items =>
      exact Result.bind_eq_ok.mpr
        ⟨(), skip_outline hm depth v, skipItems_outlines hm depth items⟩

theorem skipEntries_outlineEntries {m : Medium} (hm : m.limitsSkipped = false) (depth : Nat)
    (entries : List (String × Value)) :
    skipEntries m depth (Value.outlineEntries entries) = .ok () := by
  match entries with
  | [] => rfl
  | (key, v) :: entries =>
      exact Result.bind_eq_ok.mpr ⟨(), rfl, Result.bind_eq_ok.mpr
        ⟨(), skip_outline hm depth v, skipEntries_outlineEntries hm depth entries⟩⟩

end

-- ===================================================================== fields

variable {σ : Type} {shape : RecordShape} {depth : Nat}
  {read : σ → Nat → Outline → Except DecodeError σ} {draft draft' : σ} {v : Value}

/-- A reader of a value finds under an index what stands in the field. -/
theorem mem_recordFields (hc : v.Canonical) (hshape : shape.fields.Nodup)
    (hv : v.IsRecord shape) {i : Nat} {o : Outline} :
    (i, o) ∈ v.outline.recordFields shape
      ↔ ∃ name ∈ shape.fields, i = shape.index name
        ∧ ∃ w, v.field? shape name = some w ∧ o = w.outline := by
  cases v with
  | object entries =>
      simp only [Value.outline, recordFields, Value.outlineEntries_eq_map, List.filterMap_map,
        List.mem_filterMap, Function.comp]
      constructor
      · rintro ⟨⟨name, w⟩, hmem, heq⟩
        by_cases hname : name ∈ shape.fields
        · simp only [RecordShape.fieldIndex?_text hname] at heq
          obtain ⟨rfl, rfl⟩ := Prod.mk.inj (Option.some.inj heq)
          exact ⟨name, hname, rfl, w, hc.1.find?_eq_some.mpr hmem, rfl⟩
        · simp only [RecordShape.fieldIndex?_text_of_not_mem hname] at heq
          cases heq
      · rintro ⟨name, hname, rfl, w, hw, rfl⟩
        refine ⟨(name, w), hc.1.find?_eq_some.mp hw, ?_⟩
        simp only [RecordShape.fieldIndex?_text hname]
  | list items =>
      have hitem : (i, o) ∈ (Value.list items).outline.recordFields shape
          ↔ ∃ w, items[i]? = some w ∧ o = w.outline := by
        simp only [Value.outline, recordFields, Value.outlines_eq_map, List.mem_map]
        constructor
        · rintro ⟨⟨o', j⟩, hmem, heq⟩
          obtain ⟨rfl, rfl⟩ := Prod.mk.inj heq
          obtain ⟨w, hw, rfl⟩ := Option.map_eq_some_iff.mp
            ((List.getElem?_map ..).symm.trans (List.mem_zipIdx_iff_getElem?.mp hmem))
          exact ⟨w, hw, rfl⟩
        · rintro ⟨w, hw, rfl⟩
          refine ⟨(w.outline, i), List.mem_zipIdx_iff_getElem?.mpr ?_, rfl⟩
          rw [List.getElem?_map, hw]
          rfl
      rw [hitem]
      constructor
      · rintro ⟨w, hw, rfl⟩
        have hi : i < shape.fields.length :=
          Nat.lt_of_lt_of_le (List.getElem?_eq_some_iff.mp hw).1 hv
        have hindex : shape.index shape.fields[i] = i := hshape.idxOf_getElem i hi
        refine ⟨shape.fields[i], List.getElem_mem hi, hindex.symm, w, ?_, rfl⟩
        rw [Value.field?, hindex]
        exact hw
      · rintro ⟨name, -, rfl, w, hw, rfl⟩
        exact ⟨w, hw, rfl⟩
  | null | bool | int | float | text => exact hv.elim

/-- No field is read twice. -/
theorem nodup_recordFields (hc : v.Canonical) :
    ((v.outline.recordFields shape).map Prod.fst).Nodup := by
  cases v with
  | object entries =>
      have hfst : ((Value.object entries).outline.recordFields shape).map Prod.fst
          = (entries.map Prod.fst).filterMap fun name => shape.fields.findIdx? (· == name) := by
        simp only [Value.outline, recordFields, Value.outlineEntries_eq_map, List.filterMap_map,
          List.map_filterMap]
        refine List.filterMap_congr fun e _ => ?_
        simp only [Function.comp, RecordShape.fieldIndex?]
        cases shape.fields.findIdx? (· == e.1) <;> rfl
      rw [hfst]
      refine List.Nodup.filterMap (fun name name' i hi hi' => ?_) hc.1.nodup
      obtain ⟨_, hname, -⟩ := List.findIdx?_eq_some_iff_getElem.mp hi
      obtain ⟨_, hname', -⟩ := List.findIdx?_eq_some_iff_getElem.mp hi'
      exact (beq_iff_eq.mp hname).symm.trans (beq_iff_eq.mp hname')
  | list items =>
      have hfst : ((Value.list items).outline.recordFields shape).map Prod.fst
          = List.range' 0 items.length := by
        simp only [Value.outline, recordFields, Value.outlines_eq_map, List.map_map]
        show (List.map Prod.snd _) = _
        rw [List.zipIdx_map_snd, List.length_map]
      rw [hfst]
      exact List.nodup_range'
  | null | bool | int | float | text => exact List.nodup_nil

-- ==================================================================== drafts

theorem readItems_eq_foldlM {m : Medium} {total : Nat} {items : List Outline} :
    ∀ {i : Nat} {draft : σ}, i + items.length ≤ shape.fields.length →
      readItems m shape total read i draft items
        = ((items.zipIdx i).map fun (item, i) => (i, item)).foldlM
            (fun d e => read d e.1 e.2) draft := by
  induction items with
  | nil => exact fun _ => rfl
  | cons item items ih =>
      intro i draft hlength
      rw [List.length_cons] at hlength
      have hlt : i < shape.fields.length := by omega
      simp only [readItems, if_pos hlt, List.zipIdx_cons, List.map_cons, List.foldlM_cons]
      exact bind_congr fun d => ih (by omega)

/-- What can be read as a record are the values that have the form of one,
and it is read field by field. -/
theorem exists_readRecord (hc : v.Canonical) :
    (∃ missing, readRecord .tree shape depth read draft v.outline = .ok (draft', missing))
      ↔ v.IsRecord shape
        ∧ (v.outline.recordFields shape).foldlM (fun d e => read d e.1 e.2) draft
          = .ok draft' := by
  constructor
  · rintro ⟨missing, h⟩
    refine ⟨?_, readRecord_eq_ok h⟩
    cases v with
    | object entries => trivial
    | list items =>
        obtain ⟨_, -, h⟩ := Result.bind_eq_ok.mp h
        obtain ⟨d, hd, -⟩ := Result.bind_eq_ok.mp h
        by_cases hempty : items = []
        · subst hempty
          exact Nat.zero_le _
        · have hne : Value.outlines items ≠ [] := by
            simpa [Value.outlines_eq_map] using hempty
          have hlength := length_of_readItems hd hne
          rw [Value.outlines_eq_map, List.length_map] at hlength
          show items.length ≤ _
          omega
    | null | bool | int | float | text => cases h
  · rintro ⟨hv, h⟩
    cases v with
    | object entries =>
        have hskip : ∀ e ∈ entries, e.1 ∉ shape.fields →
            skip .tree (depth + 1) e.2.outline = .ok () := fun e _ _ => skip_outline rfl _ e.2
        have hentries : readEntries .tree shape (depth + 1) read [] draft
            (Value.outlineEntries entries) = _ :=
          readEntries_outlineEntries hc.1.nodup hskip fun _ _ _ => List.not_mem_nil
        exact ⟨shape.missing, Result.bind_eq_ok.mpr ⟨(), rfl,
          Result.bind_eq_ok.mpr ⟨draft', hentries.trans h, rfl⟩⟩⟩
    | list items =>
        have hlength : 0 + (Value.outlines items).length ≤ shape.fields.length := by
          rw [Value.outlines_eq_map, List.length_map, Nat.zero_add]
          exact hv
        exact ⟨shape.tooShort, Result.bind_eq_ok.mpr ⟨(), rfl,
          Result.bind_eq_ok.mpr ⟨draft', (readItems_eq_foldlM hlength).trans h, rfl⟩⟩⟩
    | null | bool | int | float | text => exact hv.elim

/-- A part of a draft is made of a field: reading the field decodes what
stands in it and sets the part, and reading another one leaves the part alone. -/
structure Slot (shape : RecordShape) (read : σ → Nat → Outline → Except DecodeError σ)
    (name : String) {β : Type} (decode : Outline → Except DecodeError β) (get : σ → β) :
    Prop where
  known : name ∈ shape.fields
  reads : ∀ d o b, decode o = .ok b → ∃ d', read d (shape.index name) o = .ok d'
  sets : ∀ d o d', read d (shape.index name) o = .ok d' → decode o = .ok (get d')
  keeps : ∀ d i o d', i < shape.fields.length → i ≠ shape.index name →
    read d i o = .ok d' → get d' = get d

/-- A part is what its field says, or what it was before if there is no field. -/
def Fills {β : Type} (decode : Outline → Except DecodeError β) (before after : β) :
    Option Value → Prop
  | none => after = before
  | some w => decode w.outline = .ok after

theorem Fills.eq {β : Type} {decode : Outline → Except DecodeError β} {before a b : β}
    {content : Option Value} (ha : Fills decode before a content)
    (hb : Fills decode before b content) : a = b := by
  cases content with
  | none => exact ha.trans hb.symm
  | some w => exact Except.ok.inj (ha.symm.trans hb)

namespace Slot

variable {name : String} {β : Type} {decode : Outline → Except DecodeError β} {get : σ → β}

/-- A part is made of a field if reading the field sets the part. -/
theorem of_set (set : σ → β → σ) (hknown : name ∈ shape.fields)
    (hread : ∀ d o, read d (shape.index name) o = (decode o).map (set d))
    (hget : ∀ d b, get (set d b) = b)
    (hkeeps : ∀ d i o d', i < shape.fields.length → i ≠ shape.index name →
      read d i o = .ok d' → get d' = get d) : Slot shape read name decode get where
  known := hknown
  reads := fun d o b hb => ⟨set d b, by rw [hread, hb]; rfl⟩
  sets := by
    intro d o d' h
    rw [hread] at h
    obtain ⟨b, hb, rfl⟩ := Result.map_eq_ok.mp h
    rw [hget, hb]
  keeps := hkeeps

/-- Reading fields leaves a part alone that none of them is for. -/
theorem unchanged (hs : Slot shape read name decode get) {fields : List (Nat × Outline)} :
    ∀ {draft draft' : σ}, (∀ f ∈ fields, f.1 < shape.fields.length ∧ f.1 ≠ shape.index name) →
      fields.foldlM (fun d e => read d e.1 e.2) draft = .ok draft' → get draft' = get draft := by
  induction fields with
  | nil =>
      intro draft draft' _ h
      obtain rfl := Except.ok.inj h
      rfl
  | cons f fields ih =>
      intro draft draft' hfields h
      obtain ⟨d, hd, hrest⟩ := Result.foldlM_cons_eq_ok h
      obtain ⟨hlt, hne⟩ := hfields f List.mem_cons_self
      have hlater := ih (fun f' hf' => hfields f' (List.mem_cons_of_mem _ hf')) hrest
      exact hlater.trans (hs.keeps draft f.1 f.2 d hlt hne hd)

/-- Reading the field of a part once sets it to what stands in the field. -/
theorem changed (hs : Slot shape read name decode get) {fields : List (Nat × Outline)}
    {o : Outline} :
    ∀ {draft draft' : σ}, (∀ f ∈ fields, f.1 < shape.fields.length) →
      (fields.map Prod.fst).Nodup → (shape.index name, o) ∈ fields →
      fields.foldlM (fun d e => read d e.1 e.2) draft = .ok draft' →
      decode o = .ok (get draft') := by
  induction fields with
  | nil => exact fun _ _ hmem => absurd hmem List.not_mem_nil
  | cons f fields ih =>
      intro draft draft' hfields hnodup hmem h
      obtain ⟨d, hd, hrest⟩ := Result.foldlM_cons_eq_ok h
      rw [List.map_cons, List.nodup_cons] at hnodup
      have hfields' := fun f' hf' => hfields f' (List.mem_cons_of_mem f hf')
      rcases List.mem_cons.mp hmem with rfl | hmem
      · have hlater : get draft' = get d := by
          refine hs.unchanged (fun f' hf' => ⟨hfields' f' hf', fun heq => ?_⟩) hrest
          have hkey : f'.1 ∈ fields.map Prod.fst := List.mem_map_of_mem hf'
          rw [heq] at hkey
          exact hnodup.1 hkey
        rw [hlater]
        exact hs.sets draft o d hd
      · exact ih hfields' hnodup.2 hmem hrest

/-- What a part is after a record was read. -/
theorem fills (hs : Slot shape read name decode get) (hc : v.Canonical)
    (hshape : shape.fields.Nodup) (hv : v.IsRecord shape)
    (h : (v.outline.recordFields shape).foldlM (fun d e => read d e.1 e.2) draft = .ok draft') :
    Fills decode (get draft) (get draft') (v.field? shape name) := by
  have hlt : ∀ f ∈ v.outline.recordFields shape, f.1 < shape.fields.length := by
    rintro ⟨i, o⟩ hmem
    obtain ⟨name', hname', rfl, -⟩ := (mem_recordFields hc hshape hv).mp hmem
    exact List.idxOf_lt_length_iff.mpr hname'
  cases hfield : v.field? shape name with
  | none =>
      refine hs.unchanged (fun f hf => ⟨hlt f hf, fun heq => ?_⟩) h
      obtain ⟨name', hname', hindex, w, hw, -⟩ := (mem_recordFields hc hshape hv).mp hf
      rw [← (List.idxOf_inj hs.known).mp (heq.symm.trans hindex), hfield] at hw
      cases hw
  | some w =>
      refine hs.changed hlt (nodup_recordFields hc) ?_ h
      exact (mem_recordFields hc hshape hv).mpr ⟨name, hs.known, rfl, w, hfield, rfl⟩

/-- Reading the field of a part does not fail where the part can be filled. -/
theorem readable (hs : Slot shape read name decode get) {before after : β}
    (h : Fills decode before after (v.field? shape name)) {w : Value}
    (hw : v.field? shape name = some w) (d : σ) :
    ∃ d', read d (shape.index name) w.outline = .ok d' := by
  rw [hw] at h
  exact hs.reads d w.outline after h

end Slot

/-- A value with the form of a record can be read if all of its fields can be. -/
theorem exists_draft (hc : v.Canonical) (hshape : shape.fields.Nodup) (hv : v.IsRecord shape)
    (hfields : ∀ name ∈ shape.fields, ∀ w, v.field? shape name = some w →
      ∀ d, ∃ d', read d (shape.index name) w.outline = .ok d') (draft : σ) :
    ∃ draft', (v.outline.recordFields shape).foldlM (fun d e => read d e.1 e.2) draft
      = .ok draft' := by
  refine Result.exists_foldlM (fun f hmem d => ?_) draft
  obtain ⟨i, o⟩ := f
  obtain ⟨name, hname, rfl, w, hw, rfl⟩ := (mem_recordFields hc hshape hv).mp hmem
  exact hfields name hname w hw d

end Outline

end DeviceTwin
