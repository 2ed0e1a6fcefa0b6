/-
The labels that headers ask for, and the text that they stand in.

Headers ask for labels if the text under their key is a JSON list of texts
(`Headers.Asks`). The decoder goes by the outline of the text, and an item of
a list may be a text in an outline in two ways: spelled as one, or as the
bytes of one. JSON has no bytes (`Json.byteFree_outline`), so what is decoded
is what is asked for (`Headers.requestedAcks_eq`), and where nothing is asked
for in this form there are no labels at all (`Headers.requestedAcks_eq_nil`).
Labels that are written into headers are written in this form
(`Headers.asks_withRequestedAcks`).

Which texts are JSON lists of texts is a matter of grammar and not of the reader
(`Json.TextList`), so what headers ask for can be told from their text alone
(`Headers.requested_labels_survive`).
-/
import DeviceTwin.RequestedAcks
import DeviceTwin.Proofs.Except
import DeviceTwin.Proofs.Json.TextList

namespace DeviceTwin

namespace Json

-- ================================================================== no bytes

/-- An outline that is not bytes and has none among its items. -/
def ByteFree : Outline → Prop
  | .bytes _ => False
  | .list items => ∀ b, .bytes b ∉ items
  | .null | .bool _ | .int _ | .float _ | .notFinite | .text _ | .object _ | .unfit | .broken => True

theorem ne_bytes_of_byteFree {o : Outline} (h : ByteFree o) (b : List UInt8) : o ≠ .bytes b := by
  intro hbytes
  rw [hbytes] at h
  exact h

theorem byteFree_readText (cs : List Char) : ByteFree (readText cs).1 := by
  unfold readText
  split
  · trivial
  · split <;> trivial

theorem Other.byteFree {o : Outline} (h : Other o) : ByteFree o := by
  cases o with
  | text | bytes | list => exact h.elim
  | null | bool | int | float | notFinite | object | unfit | broken => trivial

/-- Nothing is read as bytes. The induction is on the fuel, for a value, for the
items of a list and for one item with those after it at once. -/
theorem byteFree_read (fuel : Nat) :
    (∀ cs, ByteFree (readValue fuel cs).1)
    ∧ (∀ first cs b, .bytes b ∉ (readItems fuel first cs).1)
    ∧ ∀ cs b, .bytes b ∉ (readItem fuel cs).1 := by
  have hbroken : ∀ b, Outline.bytes b ∉ [Outline.broken] := by
    intro b hmem
    cases List.mem_singleton.mp hmem
  induction fuel with
  | zero => exact ⟨fun _ => trivial, fun _ _ => hbroken, fun _ => hbroken⟩
  | succ fuel ih =>
      obtain ⟨hvalue, hitems, hitem⟩ := ih
      refine ⟨fun cs => ?_, fun first cs b => ?_, fun cs b hmem => ?_⟩
      · rcases readValue_cases fuel cs with ⟨more, -, hread⟩ | ⟨more, -, hread⟩ | hother
        · rw [hread]
          exact byteFree_readText more
        · rw [hread]
          exact hitems true more
        · exact hother.byteFree
      · rw [readItems]
        split
        case h_1 => exact List.not_mem_nil
        case h_2 =>
          split
          · exact hbroken b
          · exact hbroken b
          · exact hitem _ b
        case h_3 =>
          split
          · exact hitem _ b
          · exact hbroken b
      · rcases List.mem_cons.mp hmem with hfirst | hlater
        · exact ne_bytes_of_byteFree (hvalue cs) b hfirst.symm
        · exact hitems _ _ b hlater

theorem byteFree_outline (s : String) : ByteFree (outline s).1 :=
  (byteFree_read (3 * s.toList.length + 3)).1 s.toList

-- ================================================================== decoding

theorem asText_eq_ok {o : Outline} (h : ∀ b, o ≠ .bytes b) {s : String} :
    o.asText = .ok s ↔ o = .text s := by
  cases o with
  | text t => simp [Outline.asText]
  | bytes b => exact absurd rfl (h b)
  | null | bool | int | float | notFinite | list | object | unfit | broken =>
      simp [Outline.asText]

theorem mapM_asText_eq_ok {items : List Outline} (h : ∀ b, .bytes b ∉ items)
    {labels : List String} :
    items.mapM Outline.asText = .ok labels ↔ items = labels.map .text := by
  rw [Result.mapM_eq_ok]
  constructor
  · intro hall
    induction hall with
    | nil => rfl
    | cons hfirst hrest ih =>
        rename_i item label items labels
        have hitem : item = .text label :=
          (asText_eq_ok fun b hb => h b (hb ▸ List.mem_cons_self)).mp hfirst
        rw [List.map_cons, hitem, ih fun b hb => h b (List.mem_cons_of_mem _ hb)]
  · intro hitems
    rw [hitems, List.forall₂_map_left_iff, List.forall₂_same]
    exact fun _ _ => rfl

/-- Without bytes what is decoded as labels is a list of them. -/
theorem asList_asText_eq_ok {o : Outline} (h : ByteFree o) {labels : List String} :
    Outline.asList .text 0 (fun _ => Outline.asText) o = .ok labels
      ↔ o = .list (labels.map .text) := by
  cases o with
  | list items =>
      rw [Outline.list.injEq]
      exact mapM_asText_eq_ok h
  | bytes => cases h
  | null | bool | int | float | notFinite | text | object | unfit | broken =>
      simp [Outline.asList]

/-- A text is decoded into labels if it is a list of them and nothing else. -/
theorem decode_labels_eq_ok {raw : String} {labels : List String} :
    decode (Outline.asList .text 0 fun _ => Outline.asText) raw = .ok labels
      ↔ outline raw = (.list (labels.map .text), true) := by
  have hfree := byteFree_outline raw
  unfold decode
  cases hout : outline raw with
  | mk o clean =>
      rw [hout] at hfree
      constructor
      · intro h
        obtain ⟨read, hread, hclean⟩ := Result.bind_eq_ok.mp h
        cases clean with
        | false => cases hclean
        | true =>
            obtain rfl := Except.ok.inj hclean
            exact congrArg (·, true) ((asList_asText_eq_ok hfree).mp hread)
      · intro h
        obtain ⟨rfl, rfl⟩ := Prod.mk.inj h
        exact Result.bind_eq_ok.mpr ⟨labels, (asList_asText_eq_ok hfree).mpr rfl, rfl⟩

end Json

namespace Headers

variable {h : Headers} {labels : List String}

-- ==================================================================== labels

/-- The headers ask for these labels: under their key stands a JSON list of them,
and nothing else. -/
def Asks (h : Headers) (labels : List String) : Prop :=
  ∃ raw, h.get? requestedAcksKey = some raw
    ∧ Json.outline raw = (.list (labels.map .text), true)

/-- What is asked for is all that is read. -/
theorem requestedAcks_eq (hasks : h.Asks labels) : h.requestedAcks = labels := by
  obtain ⟨raw, hraw, hlist⟩ := hasks
  rw [requestedAcks, hraw]
  simp only [Json.decode_labels_eq_ok.mpr hlist]

/-- Where nothing is asked for in this form nothing is read, not even a part. -/
theorem requestedAcks_eq_nil (hnone : ∀ labels, ¬ h.Asks labels) : h.requestedAcks = [] := by
  unfold requestedAcks
  cases hraw : h.get? requestedAcksKey with
  | none => rfl
  | some raw =>
      dsimp only
      cases hread : Json.decode (Outline.asList .text 0 fun _ => Outline.asText) raw with
      | error e => rfl
      | ok labels => exact absurd ⟨raw, hraw, Json.decode_labels_eq_ok.mp hread⟩ (hnone labels)

/-- Headers that were made to ask for labels ask for them, whatever is in them. -/
theorem asks_withRequestedAcks (h : Headers) (labels : List String) :
    (h.withRequestedAcks labels).Asks labels := by
  have hfloat : (Value.list (labels.map .text)).FloatFree := by
    refine Value.listFloatFree_iff.mpr fun v hv => ?_
    obtain ⟨label, -, rfl⟩ := List.mem_map.mp hv
    trivial
  have hread : Outline.asList .text 0 (fun _ => Outline.asText)
      (Value.list (labels.map .text)).outline = .ok labels := by
    rw [Value.outline, Value.outlines_eq_map, List.map_map]
    refine Result.mapM_eq_ok.mpr ?_
    rw [List.forall₂_map_left_iff, List.forall₂_same]
    exact fun _ _ => rfl
  exact ⟨_, get?_set_self .., Json.decode_labels_eq_ok.mp (Json.decode_text hfloat hread)⟩

theorem requestedAcks_withRequestedAcks (h : Headers) (labels : List String) :
    (h.withRequestedAcks labels).requestedAcks = labels :=
  requestedAcks_eq (h.asks_withRequestedAcks labels)

theorem asks_iff_textList {raw : String} (hraw : h.get? requestedAcksKey = some raw) :
    h.Asks labels ↔ Json.TextList raw.toList labels := by
  rw [← Json.outline_eq_texts_iff]
  constructor
  · rintro ⟨raw', hraw', hlist⟩
    obtain rfl := Option.some.inj (hraw.symm.trans hraw')
    exact hlist
  · intro hlist
    exact ⟨raw, hraw, hlist⟩

/-- The labels are those of the list that stands in the headers, or there are none
because none stands there. -/
theorem requestedAcks_eq_iff {raw : String} (hraw : h.get? requestedAcksKey = some raw) :
    h.requestedAcks = labels
      ↔ Json.TextList raw.toList labels
        ∨ labels = [] ∧ ∀ others, ¬ Json.TextList raw.toList others := by
  simp only [← asks_iff_textList hraw]
  constructor
  · intro hlabels
    rw [← hlabels]
    by_cases hasks : ∃ others, h.Asks others
    · obtain ⟨others, hothers⟩ := hasks
      rw [requestedAcks_eq hothers]
      exact .inl hothers
    · have hnone := not_exists.mp hasks
      exact .inr ⟨requestedAcks_eq_nil hnone, hnone⟩
  · intro hread
    rcases hread with hasks | ⟨hempty, hnone⟩
    · exact requestedAcks_eq hasks
    · rw [hempty]
      exact requestedAcks_eq_nil hnone

/-- Labels survive in headers, whatever the headers are.

- Labels that are put into headers are read from them, all of them and in their
  order, whichever texts they are; they stand there as a JSON list of texts, and no
  other header changes.
- Of the text that stands in headers all labels are read or none: the labels of the
  list if by its grammar the text is a JSON list of texts, and no label otherwise.
- Where no text stands no label is read. -/
theorem requested_labels_survive (h : Headers) :
    (∀ labels : List String,
      (h.withRequestedAcks labels).requestedAcks = labels
      ∧ (∃ raw, (h.withRequestedAcks labels).get? "requested-acks" = some raw
          ∧ Json.TextList raw.toList labels)
      ∧ ∀ key, key ≠ "requested-acks" → (h.withRequestedAcks labels).get? key = h.get? key)
    ∧ (∀ raw, h.get? "requested-acks" = some raw → ∀ labels,
        h.requestedAcks = labels
          ↔ Json.TextList raw.toList labels
            ∨ labels = [] ∧ ∀ others, ¬ Json.TextList raw.toList others)
    ∧ (h.get? "requested-acks" = none → h.requestedAcks = []) := by
  refine ⟨fun labels => ⟨h.requestedAcks_withRequestedAcks labels, ?_, ?_⟩,
    fun raw hraw labels => requestedAcks_eq_iff hraw, fun hnone => ?_⟩
  · obtain ⟨raw, hraw, hlist⟩ := h.asks_withRequestedAcks labels
    exact ⟨raw, hraw, (Json.outline_eq_texts_iff raw labels).mp hlist⟩
  · intro key hkey
    exact get?_set_of_ne hkey h _
  · refine requestedAcks_eq_nil fun labels hasks => ?_
    obtain ⟨raw, hraw, -⟩ := hasks
    exact Option.some_ne_none raw (hraw.symm.trans hnone)

/-- One number among the labels, and none of them is read. -/
example : (Headers.ofPairs [("requested-acks", "[\"stored\", 1]")]).requestedAcks = [] := by
  decide +kernel

end Headers

end DeviceTwin
