/-
Free values and their outlines.

The outline of a payload decodes to that very payload, as long as it does
not nest too deeply for the medium (`Medium.Allows`). Nesting is measured by
`Value.height`, the number of lists and objects that are open at once.
Objects come back as they were because their keys are in order
(`Keyed.ofList_of_sorted`).

Floating-point numbers are told apart throughout (`FloatFree`), in values
and in outlines, where the leaf that stands for what is not finite is one
of them: it is the only outline besides null that decodes to null.
-/
import DeviceTwin.Outline.Decode
import DeviceTwin.Proofs.Except
import DeviceTwin.Proofs.Keyed

namespace DeviceTwin

-- =================================================================== nesting

namespace Value

mutual

/-- How many lists and objects are open at once. -/
def height : Value → Nat
  | .list items => listHeight items + 1
  | .object entries => entriesHeight entries + 1
  | .null | .bool _ | .int _ | .float _ | .text _ => 0

/-- The height of the highest item, none for no items. -/
def listHeight : List Value → Nat
  | [] => 0
  | v :: vs => max (height v) (listHeight vs)

/-- The height of the highest value under a key. -/
def entriesHeight : List (String × Value) → Nat
  | [] => 0
  | (_, v) :: es => max (height v) (entriesHeight es)

end

/-- An item is no higher than its list. -/
theorem height_le_listHeight {v : Value} {items : List Value} (h : v ∈ items) :
    v.height ≤ listHeight items := by
  induction items with
  | nil => cases h
  | cons w items ih =>
      rcases List.mem_cons.mp h with rfl | h
      · exact Nat.le_max_left ..
      · exact Nat.le_trans (ih h) (Nat.le_max_right ..)

/-- A value is no higher than the entries that it stands in. -/
theorem height_le_entriesHeight {e : String × Value}
    {entries : List (String × Value)} (h : e ∈ entries) :
    e.2.height ≤ entriesHeight entries := by
  induction entries with
  | nil => cases h
  | cons f entries ih =>
      rcases List.mem_cons.mp h with rfl | h
      · exact Nat.le_max_left ..
      · exact Nat.le_trans (ih h) (Nat.le_max_right ..)

/-- A bound on all items bounds the list, as its height is a maximum. -/
theorem listHeight_le {items : List Value} {n : Nat}
    (h : ∀ v ∈ items, v.height ≤ n) : listHeight items ≤ n := by
  induction items with
  | nil => exact Nat.zero_le n
  | cons v items ih =>
      exact Nat.max_le.mpr ⟨h v List.mem_cons_self,
        ih fun w hw => h w (List.mem_cons_of_mem _ hw)⟩

/-- A bound on all values bounds the entries. -/
theorem entriesHeight_le {entries : List (String × Value)} {n : Nat}
    (h : ∀ e ∈ entries, e.2.height ≤ n) : entriesHeight entries ≤ n := by
  induction entries with
  | nil => exact Nat.zero_le n
  | cons e entries ih =>
      exact Nat.max_le.mpr ⟨h e List.mem_cons_self,
        ih fun f hf => h f (List.mem_cons_of_mem _ hf)⟩

end Value

namespace Medium

variable {m : Medium} {depth height height' : Nat}

/-- Whether so many more lists and objects may be open at once, where
`depth` are open. -/
def Allows (m : Medium) (depth height : Nat) : Prop :=
  ∀ limit ∈ m.limit, depth + height ≤ limit

/-- A medium that allows a value allows every lower one in its place. -/
theorem Allows.mono (h : m.Allows depth height) (hle : height' ≤ height) :
    m.Allows depth height' :=
  fun limit hlimit => Nat.le_trans (Nat.add_le_add_left hle _) (h limit hlimit)

/-- Opening one leaves room for one less. -/
theorem Allows.enter (h : m.Allows depth (height + 1)) :
    m.enter depth = .ok () ∧ m.Allows (depth + 1) height := by
  refine ⟨if_pos ?_, fun limit hlimit => ?_⟩
  · unfold admits
    cases hl : m.limit with
    | none => rfl
    | some limit =>
        have := h limit hl
        exact decide_eq_true (by omega)
  · have := h limit hlimit
    omega

/-- Values that were decoded before may nest at will. -/
theorem allows_tree (depth height : Nat) : tree.Allows depth height := by
  intro limit hlimit
  cases hlimit

end Medium

-- ========================================================= values and outlines

namespace Value

/-- Null is the only value that is outlined as null, so an outline shows whether
something was left out. -/
theorem outline_eq_null {v : Value} : v.outline = .null ↔ v = .null := by
  cases v <;> simp [outline]

/-- Keys are outlined as texts, and the entries keep their order. -/
theorem outlineEntries_eq_map (entries : List (String × Value)) :
    outlineEntries entries = entries.map fun e => (.text e.1, e.2.outline) := by
  induction entries with
  | nil => rfl
  | cons e entries ih =>
      rw [List.map_cons, ← ih]
      rfl

/-- Items are outlined one by one. -/
theorem outlines_eq_map (items : List Value) :
    outlines items = items.map outline := by
  induction items with
  | nil => rfl
  | cons v items ih =>
      rw [List.map_cons, ← ih]
      rfl

end Value

namespace Outline

/-- The outline of an object whose keys are texts opens with one. -/
theorem opensWithText_outlineEntries (entries : List (String × Value)) :
    opensWithText (Value.outlineEntries entries) = true := by
  cases entries with
  | nil => rfl
  | cons e entries => rfl

mutual

/-- A value in order is the value that its outline spells. -/
theorem value_outline {m : Medium} {depth : Nat} {v : Value}
    (hc : v.Canonical) (hf : m.Allows depth v.height) :
    value m depth v.outline = .ok v := by
  cases v with
  | null | bool | int | float | text => rfl
  | list items =>
      obtain ⟨henter, hroom⟩ := hf.enter
      have hitems := values_outlines hc hroom
      simp only [Value.outline, value, henter, hitems, bind, Except.bind]
      rfl
  | object entries =>
      obtain ⟨henter, hroom⟩ := hf.enter
      have hentries := pairs_outlineEntries hc.2 hroom
      have hsorted : Value.ofPairs entries = .object entries :=
        congrArg Value.object (Keyed.ofList_of_sorted hc.1)
      simp only [Value.outline, value, henter, hentries,
        opensWithText_outlineEntries, if_true, bind, Except.bind, pure,
        Except.pure, hsorted]

/-- The items of a list come back from their outlines, one level further in. -/
theorem values_outlines {m : Medium} {depth : Nat} {items : List Value}
    (hc : Value.ListCanonical items)
    (hf : m.Allows depth (Value.listHeight items)) :
    values m depth (Value.outlines items) = .ok items := by
  cases items with
  | nil => rfl
  | cons v items =>
      have hv := value_outline hc.1 (hf.mono (Nat.le_max_left ..))
      have hitems := values_outlines hc.2 (hf.mono (Nat.le_max_right ..))
      simp only [Value.outlines, values, hv, hitems, bind, Except.bind]
      rfl

/-- The entries of an object come back from their outlines, one level further in. -/
theorem pairs_outlineEntries {m : Medium} {depth : Nat}
    {entries : List (String × Value)}
    (hc : Value.EntriesCanonical entries)
    (hf : m.Allows depth (Value.entriesHeight entries)) :
    pairs m depth (Value.outlineEntries entries) = .ok entries := by
  match entries with
  | [] => rfl
  | (k, v) :: entries =>
      have hv := value_outline hc.1 (hf.mono (Nat.le_max_left ..))
      have hentries := pairs_outlineEntries hc.2 (hf.mono (Nat.le_max_right ..))
      simp only [Value.outlineEntries, pairs, keyText, hv, hentries, bind,
        Except.bind]
      rfl

end

/-- A payload is what its outline spells. -/
theorem payload_outline {m : Medium} {depth : Nat} (p : Payload)
    (hf : m.Allows depth p.value.height) :
    payload m depth p.value.outline = .ok p := by
  have hvalue := value_outline p.canonical hf
  unfold payload
  split
  · rename_i v hv
    rw [hvalue] at hv
    obtain rfl := Except.ok.inj hv
    rfl
  · rename_i e he
    rw [hvalue] at he
    cases he

end Outline

-- ==================================================== floating-point numbers

namespace Value

mutual

/-- No floating-point number is in the tree. -/
def FloatFree : Value → Prop
  | .float _ => False
  | .list items => ListFloatFree items
  | .object entries => EntriesFloatFree entries
  | .null | .bool _ | .int _ | .text _ => True

/-- No item holds a floating-point number. -/
def ListFloatFree : List Value → Prop
  | [] => True
  | v :: vs => FloatFree v ∧ ListFloatFree vs

/-- No value under a key holds a floating-point number. -/
def EntriesFloatFree : List (String × Value) → Prop
  | [] => True
  | (_, v) :: es => FloatFree v ∧ EntriesFloatFree es

end

/-- What the recursion says of a list, item by item. -/
theorem listFloatFree_iff {items : List Value} :
    ListFloatFree items ↔ ∀ v ∈ items, FloatFree v := by
  induction items with
  | nil => simp [ListFloatFree]
  | cons v items ih => simp [ListFloatFree, ih]

/-- What the recursion says of entries, value by value. -/
theorem entriesFloatFree_iff {entries : List (String × Value)} :
    EntriesFloatFree entries ↔ ∀ e ∈ entries, FloatFree e.2 := by
  induction entries with
  | nil => simp [EntriesFloatFree]
  | cons e entries ih => simp [EntriesFloatFree, ih]

/-- Putting pairs in order and dropping those that are overwritten brings no number
in. -/
theorem floatFree_ofPairs {pairs : List (String × Value)}
    (h : EntriesFloatFree pairs) : FloatFree (ofPairs pairs) := by
  refine entriesFloatFree_iff.mpr fun e he => ?_
  exact entriesFloatFree_iff.mp h e (Keyed.mem_ofList he)

end Value

namespace Outline

mutual

/-- No floating-point number is in the tree, finite or not. -/
def FloatFree : Outline → Prop
  | .float _ | .notFinite => False
  | .list items => ListFloatFree items
  | .object entries => EntriesFloatFree entries
  | .null | .bool _ | .int _ | .text _ | .bytes _ | .unfit | .broken => True

/-- No item of the outline of a list is a floating-point number or holds one. -/
def ListFloatFree : List Outline → Prop
  | [] => True
  | o :: os => FloatFree o ∧ ListFloatFree os

/-- No value in the outline of an object is a floating-point number or holds one;
keys do not matter. -/
def EntriesFloatFree : List (Outline × Outline) → Prop
  | [] => True
  | (_, o) :: es => FloatFree o ∧ EntriesFloatFree es

end

mutual

/-- The outline of a value has the numbers of the value. -/
theorem floatFree_outline {v : Value} (hf : v.FloatFree) : v.outline.FloatFree := by
  cases v with
  | float => exact hf.elim
  | list items => exact floatFree_outlines hf
  | object entries => exact floatFree_outlineEntries hf
  | null | bool | int | text => trivial

/-- The outlines of items hold a floating-point number only if an item does. -/
theorem floatFree_outlines {items : List Value} (hf : Value.ListFloatFree items) :
    ListFloatFree (Value.outlines items) := by
  match items with
  | [] => trivial
  | v :: items => exact ⟨floatFree_outline hf.1, floatFree_outlines hf.2⟩

/-- The outlines of entries hold a floating-point number only if a value does; keys are
texts. -/
theorem floatFree_outlineEntries {entries : List (String × Value)}
    (hf : Value.EntriesFloatFree entries) :
    EntriesFloatFree (Value.outlineEntries entries) := by
  match entries with
  | [] => trivial
  | (key, v) :: entries =>
      exact ⟨floatFree_outline hf.1, floatFree_outlineEntries hf.2⟩

end

/-- Null is spelled by nothing else, where no number is not finite. -/
theorem eq_null_of_value {m : Medium} {depth : Nat} {o : Outline}
    (h : value m depth o = .ok .null) (hf : o.FloatFree) : o = .null := by
  cases o with
  | null => rfl
  | notFinite => exact hf.elim
  | list items =>
      obtain ⟨_, -, h⟩ := Result.bind_eq_ok.mp h
      obtain ⟨_, -, h⟩ := Result.bind_eq_ok.mp h
      cases h
  | object entries =>
      obtain ⟨_, -, h⟩ := Result.bind_eq_ok.mp h
      split at h
      · obtain ⟨_, -, h⟩ := Result.bind_eq_ok.mp h
        cases h
      · cases h
  | bool | int | float | text | bytes | unfit | broken => cases h

mutual

/-- A value has no floating-point number if its outline has none. -/
theorem floatFree_of_value {m : Medium} {depth : Nat} {o : Outline}
    {v : Value} (h : value m depth o = .ok v) (hf : o.FloatFree) :
    v.FloatFree := by
  cases o with
  | list items =>
      obtain ⟨_, -, h⟩ := Result.bind_eq_ok.mp h
      obtain ⟨vs, hvs, h⟩ := Result.bind_eq_ok.mp h
      obtain rfl := Except.ok.inj h
      exact floatFree_of_values hvs hf
  | object entries =>
      obtain ⟨_, -, h⟩ := Result.bind_eq_ok.mp h
      split at h
      · obtain ⟨es, hes, h⟩ := Result.bind_eq_ok.mp h
        obtain rfl := Except.ok.inj h
        exact Value.floatFree_ofPairs (floatFree_of_pairs hes hf)
      · cases h
  | float | notFinite => exact hf.elim
  | null | bool | int | text =>
      obtain rfl := Except.ok.inj h
      trivial
  | bytes | unfit | broken => cases h

/-- A list that is read has no floating-point numbers but those of its outline. -/
theorem floatFree_of_values {m : Medium} {depth : Nat} {items : List Outline}
    {vs : List Value} (h : values m depth items = .ok vs)
    (hf : ListFloatFree items) : Value.ListFloatFree vs := by
  cases items with
  | nil =>
      obtain rfl := Except.ok.inj h
      trivial
  | cons item items =>
      obtain ⟨v, hv, h⟩ := Result.bind_eq_ok.mp h
      obtain ⟨rest, hrest, h⟩ := Result.bind_eq_ok.mp h
      obtain rfl := Except.ok.inj h
      exact ⟨floatFree_of_value hv hf.1, floatFree_of_values hrest hf.2⟩

/-- Entries that are read have no floating-point numbers but those of their outlines. -/
theorem floatFree_of_pairs {m : Medium} {depth : Nat}
    {entries : List (Outline × Outline)} {es : List (String × Value)}
    (h : pairs m depth entries = .ok es) (hf : EntriesFloatFree entries) :
    Value.EntriesFloatFree es := by
  match entries with
  | [] =>
      obtain rfl := Except.ok.inj h
      trivial
  | (key, item) :: entries =>
      obtain ⟨k, -, h⟩ := Result.bind_eq_ok.mp h
      obtain ⟨v, hv, h⟩ := Result.bind_eq_ok.mp h
      obtain ⟨rest, hrest, h⟩ := Result.bind_eq_ok.mp h
      obtain rfl := Except.ok.inj h
      exact ⟨floatFree_of_value hv hf.1, floatFree_of_pairs hrest hf.2⟩

end

/-- A payload is the value that is read, kept together with the fact that it is
canonical. -/
theorem value_of_payload {m : Medium} {depth : Nat} {o : Outline}
    {p : Payload} (h : payload m depth o = .ok p) :
    value m depth o = .ok p.value := by
  unfold payload at h
  split at h
  case h_1 v hv =>
    obtain rfl := Except.ok.inj h
    exact hv
  case h_2 => cases h

/-- A field that may be null is left out exactly if it is null. -/
theorem optional_eq_none {α : Type} {decode : Outline → Except DecodeError α}
    {o : Outline} : optional decode o = .ok none ↔ o = .null := by
  constructor
  · intro h
    unfold optional at h
    split at h
    case h_1 => rfl
    case h_2 =>
      obtain ⟨_, -, heq⟩ := Result.map_eq_ok.mp h
      cases heq
  · intro h
    rw [h]
    rfl

/-- A field that may be null has a value only if it is not null and the value can be
read. -/
theorem optional_eq_some {α : Type} {decode : Outline → Except DecodeError α}
    {o : Outline} {a : α} (h : optional decode o = .ok (some a)) :
    o ≠ .null ∧ decode o = .ok a := by
  unfold optional at h
  split at h
  case h_1 => cases h
  case h_2 hne =>
    obtain ⟨b, hb, heq⟩ := Result.map_eq_ok.mp h
    obtain rfl := Option.some.inj heq
    exact ⟨hne, hb⟩

/-- The content of a field is not null, where no number is not finite. -/
theorem content_of_optional {m : Medium} {depth : Nat} {o : Outline}
    {content : Option Payload} (h : optional (payload m depth) o = .ok content)
    (hf : o.FloatFree) : ∀ p ∈ content, p.value.FloatFree ∧ p ≠ .null := by
  rintro p rfl
  obtain ⟨hne, hread⟩ := optional_eq_some h
  have hvalue := value_of_payload hread
  refine ⟨floatFree_of_value hvalue hf, ?_⟩
  rintro rfl
  exact hne (eq_null_of_value hvalue hf)

end Outline

-- ================================================= how a reader tells numbers

namespace Value

variable {read : Double → Outline}

mutual

/-- The outline of a value, with floating-point numbers as a reader has them. -/
def outlineBy (read : Double → Outline) : Value → Outline
  | .null => .null
  | .bool b => .bool b
  | .int n => .int n
  | .float x => read x
  | .text s => .text s
  | .list items => .list (outlinesBy read items)
  | .object entries => .object (outlineEntriesBy read entries)

/-- The outlines of items, with floating-point numbers read in some way. -/
def outlinesBy (read : Double → Outline) : List Value → List Outline
  | [] => []
  | v :: vs => outlineBy read v :: outlinesBy read vs

/-- The outlines of entries, with floating-point numbers read in some way. -/
def outlineEntriesBy (read : Double → Outline) :
    List (String × Value) → List (Outline × Outline)
  | [] => []
  | (k, v) :: es => (.text k, outlineBy read v) :: outlineEntriesBy read es

end

mutual

/-- It is the outline of the value if the reader has the numbers as they are,
or if there are none. -/
theorem outlineBy_eq {v : Value} (h : (∀ x, read x = .float x) ∨ v.FloatFree) :
    v.outlineBy read = v.outline := by
  cases v with
  | null | bool | int | text => rfl
  | float x =>
      rcases h with h | h
      · exact h x
      · exact h.elim
  | list items => exact congrArg Outline.list (outlinesBy_eq h)
  | object entries => exact congrArg Outline.object (outlineEntriesBy_eq h)

/-- Where no number is read otherwise, or there is none, the outlines of items are the
plain ones. -/
theorem outlinesBy_eq {items : List Value}
    (h : (∀ x, read x = .float x) ∨ ListFloatFree items) :
    outlinesBy read items = outlines items := by
  cases items with
  | nil => rfl
  | cons v items =>
      simp only [outlinesBy, outlines, outlineBy_eq (h.imp_right And.left),
        outlinesBy_eq (h.imp_right And.right)]

/-- Where no number is read otherwise, or there is none, the outlines of entries are the
plain ones. -/
theorem outlineEntriesBy_eq {entries : List (String × Value)}
    (h : (∀ x, read x = .float x) ∨ EntriesFloatFree entries) :
    outlineEntriesBy read entries = outlineEntries entries := by
  match entries with
  | [] => rfl
  | (key, v) :: entries =>
      simp only [outlineEntriesBy, outlineEntries, outlineBy_eq (h.imp_right And.left),
        outlineEntriesBy_eq (h.imp_right And.right)]

end

/-- Keys are no numbers, so they are outlined as texts in every way of reading. -/
theorem outlineEntriesBy_eq_map (entries : List (String × Value)) :
    outlineEntriesBy read entries
      = entries.map fun e => (.text e.1, e.2.outlineBy read) := by
  induction entries with
  | nil => rfl
  | cons e entries ih =>
      rw [List.map_cons, ← ih]
      rfl

end Value

-- ===================================================================== parts

namespace Value

/-- What stands in a list, or under a key of an object. -/
inductive IsPart : Value → Value → Prop
  | item {items : List Value} {v : Value} (h : v ∈ items) :
      IsPart v (.list items)
  | content {entries : List (String × Value)} {e : String × Value}
      (h : e ∈ entries) : IsPart e.2 (.object entries)

namespace IsPart

variable {v w : Value}

/-- What is somewhere inside a canonical value is canonical itself. -/
theorem canonical (h : IsPart v w) (hw : w.Canonical) : v.Canonical := by
  cases h with
  | item h => exact listCanonical_iff.mp hw v h
  | content h => exact entriesCanonical_iff.mp hw.2 _ h

/-- What is somewhere inside a value without floating-point numbers has none. -/
theorem floatFree (h : IsPart v w) (hw : w.FloatFree) : v.FloatFree := by
  cases h with
  | item h => exact listFloatFree_iff.mp hw v h
  | content h => exact entriesFloatFree_iff.mp hw _ h

/-- What is inside a value nests less deeply. -/
theorem height_lt (h : IsPart v w) : v.height < w.height := by
  cases h with
  | item h => exact Nat.lt_succ_of_le (height_le_listHeight h)
  | content h => exact Nat.lt_succ_of_le (height_le_entriesHeight h)

end IsPart

end Value

end DeviceTwin
