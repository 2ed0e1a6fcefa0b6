/-
Decoding outlines into free values, texts, numbers and records.

All decoders walk an outline in the order of the frame. What differs
between the media that outlines come from is collected in `Medium`: how
many lists and objects may be open at once, whether that holds in
skipped parts too, and whether a list that is too long for its record is
reported.

A record may stand as an object, with its fields under their names in
any order, or as a list of the fields in their order. Unknown names are
skipped, a name that comes twice is an error when it comes the second
time, and what is missing is only known at the end.
-/
import DeviceTwin.DecodeError
import DeviceTwin.Headers
import DeviceTwin.Outline

namespace DeviceTwin

-- ==================================================================== media

/-- What decoding depends on besides the outline. -/
structure Medium where
  /-- How many lists and objects may be open at once, if there is a limit. -/
  limit : Option Nat
  /-- Whether the limit holds in skipped parts. -/
  limitsSkipped : Bool
  /-- Whether a list with more items than its record has fields is reported as such. -/
  reportsSurplus : Bool

namespace Medium

/-- Text frames: at most 127 open at once, in skipped parts any number. -/
def text : Medium := ⟨some 127, false, false⟩

/-- Binary frames: at most 1023 open at once. -/
def binary : Medium := ⟨some 1023, true, false⟩

/-- Values that were decoded before. -/
def tree : Medium := ⟨none, false, true⟩

/-- Text without any limit. -/
def unlimited : Medium := ⟨none, false, false⟩

/-- Whether one more list or object may be opened when `depth` are open. -/
def admits (m : Medium) (depth : Nat) : Bool :=
  match m.limit with
  | some limit => depth < limit
  | none => true

/-- Opens a list or object. -/
def enter (m : Medium) (depth : Nat) : Except DecodeError Unit :=
  if m.admits depth then .ok () else .error .unreadable

end Medium

namespace Outline

-- ================================================================= mismatches

/-- The error when something else was wanted. -/
def mismatch (wanted : String) : Outline → DecodeError
  | .null => .wrongKind .null wanted
  | .bool b => .wrongKind (.bool b) wanted
  | .int n => .wrongKind (.int n) wanted
  | .float x => .wrongKind (.float x) wanted
  | .text s => .wrongKind (.text s) wanted
  | .list _ => .wrongKind .list wanted
  | .object _ => .wrongKind .object wanted
  | .notFinite | .bytes _ | .unfit | .broken => .unreadable

-- =================================================================== skipping

mutual

/-- Passes over a part that nobody asked for. -/
def skip (m : Medium) (depth : Nat) : Outline → Except DecodeError Unit
  | .broken => .error .unreadable
  | .unfit => if m.limitsSkipped then m.enter depth else .ok ()
  | .list items => do
      if m.limitsSkipped then m.enter depth
      skipItems m (depth + 1) items
  | .object entries => do
      if m.limitsSkipped then m.enter depth
      skipEntries m (depth + 1) entries
  | _ => .ok ()

/-- Passes over items. -/
def skipItems (m : Medium) (depth : Nat) : List Outline → Except DecodeError Unit
  | [] => .ok ()
  | item :: items => do
      skip m depth item
      skipItems m depth items

/-- Passes over entries. -/
def skipEntries (m : Medium) (depth : Nat) : List (Outline × Outline) → Except DecodeError Unit
  | [] => .ok ()
  | (key, item) :: entries => do
      skip m depth key
      skip m depth item
      skipEntries m depth entries

end

-- ======================================================================= keys

/-- The text that bytes spell, if they spell one. -/
def textOfBytes? (b : List UInt8) : Option String := String.fromUTF8? ⟨b.toArray⟩

/-- A key that is a text, or bytes that spell one. -/
def keyText : Outline → Except DecodeError String
  | .text s => .ok s
  | .bytes b =>
      match textOfBytes? b with
      | some s => .ok s
      | none => .error .unreadable
  | _ => .error .unreadable

/-- Whether the first key is a text; what has no key passes. -/
def opensWithText : List (Outline × Outline) → Bool
  | [] | (.text _, _) :: _ => true
  | _ => false

-- ================================================================ free values

mutual

/-- The free value that an outline spells. An object is told by its first key, which must be a
text; bytes that spell a text will do for the keys after it. -/
def value (m : Medium) (depth : Nat) : Outline → Except DecodeError Value
  | .null | .notFinite => .ok .null
  | .bool b => .ok (.bool b)
  | .int n => .ok (.int n)
  | .float x => .ok (.float x)
  | .text s => .ok (.text s)
  | .list items => do
      m.enter depth
      return .list (← values m (depth + 1) items)
  | .object entries => do
      m.enter depth
      if opensWithText entries then return .ofPairs (← pairs m (depth + 1) entries)
      else .error .unreadable
  | .bytes _ | .unfit | .broken => .error .unreadable

/-- The free values of items. -/
def values (m : Medium) (depth : Nat) : List Outline → Except DecodeError (List Value)
  | [] => .ok []
  | item :: items => do
      let v ← value m depth item
      return v :: (← values m depth items)

/-- The keys and free values of entries, as they come. -/
def pairs (m : Medium) (depth : Nat) :
    List (Outline × Outline) → Except DecodeError (List (String × Value))
  | [] => .ok []
  | (key, item) :: entries => do
      let k ← keyText key
      let v ← value m depth item
      return (k, v) :: (← pairs m depth entries)

end

mutual

/-- A decoded value has its objects in order. -/
theorem canonical_of_value {m : Medium} {depth : Nat} {o : Outline} {v : Value}
    (h : value m depth o = .ok v) : v.Canonical := by
  cases o with
  | list items =>
    simp only [value, bind, Except.bind, pure, Except.pure] at h
    split at h
    · cases h
    · split at h
      · cases h
      · rename_i vs hvs
        cases h
        exact Value.canonical_list (canonical_of_values hvs)
  | object entries =>
    simp only [value, bind, Except.bind, pure, Except.pure] at h
    split at h
    · cases h
    · split at h
      · split at h
        · cases h
        · rename_i es hes
          cases h
          exact Value.canonical_ofPairs (canonical_of_pairs hes)
      · cases h
  | null => cases h; exact trivial
  | bool => cases h; exact trivial
  | int => cases h; exact trivial
  | float => cases h; exact trivial
  | notFinite => cases h; exact trivial
  | text => cases h; exact trivial
  | bytes => cases h
  | unfit => cases h
  | broken => cases h

theorem canonical_of_values {m : Medium} {depth : Nat} {items : List Outline} {vs : List Value}
    (h : values m depth items = .ok vs) : ∀ v ∈ vs, v.Canonical := by
  match items with
  | [] =>
    cases h
    simp
  | item :: items =>
    simp only [values, bind, Except.bind, pure, Except.pure] at h
    split at h
    · cases h
    · rename_i v hv
      split at h
      · cases h
      · rename_i ws hws
        cases h
        intro w hw
        rcases List.mem_cons.1 hw with rfl | hw
        · exact canonical_of_value hv
        · exact canonical_of_values hws w hw

theorem canonical_of_pairs {m : Medium} {depth : Nat} {entries : List (Outline × Outline)}
    {es : List (String × Value)} (h : pairs m depth entries = .ok es) :
    ∀ e ∈ es, e.2.Canonical := by
  match entries with
  | [] =>
    cases h
    simp
  | (key, item) :: entries =>
    simp only [pairs, bind, Except.bind, pure, Except.pure] at h
    split at h
    · cases h
    · split at h
      · cases h
      · rename_i v hv
        split at h
        · cases h
        · rename_i ws hws
          cases h
          intro e he
          rcases List.mem_cons.1 he with rfl | he
          · exact canonical_of_value hv
          · exact canonical_of_pairs hws e he

end

/-- The payload that an outline spells. -/
def payload (m : Medium) (depth : Nat) (o : Outline) : Except DecodeError Payload :=
  match h : value m depth o with
  | .ok v => .ok ⟨v, canonical_of_value h⟩
  | .error e => .error e

-- ============================================================ simple contents

/-- A text, or bytes that spell one. -/
def asText : Outline → Except DecodeError String
  | .text s => .ok s
  | .bytes b =>
      match textOfBytes? b with
      | some s => .ok s
      | none => .error .unreadable
  | o => .error (o.mismatch "a string")

/-- An unsigned 16-bit word. -/
def asUInt16 : Outline → Except DecodeError UInt16
  | .int n =>
      match n.toUInt16? with
      | some w => .ok w
      | none => .error (.outOfRange n "u16")
  | o => .error (o.mismatch "u16")

/-- A signed 64-bit word. -/
def asInt64 : Outline → Except DecodeError Int64
  | .int n =>
      match n.toInt64? with
      | some w => .ok w
      | none => .error (.outOfRange n "i64")
  | o => .error (o.mismatch "i64")

/-- Null or a content. -/
def optional {α : Type} (decode : Outline → Except DecodeError α) :
    Outline → Except DecodeError (Option α)
  | .null => .ok none
  | o => (decode o).map some

/-- The items of a list. -/
def asList {α : Type} (m : Medium) (depth : Nat) (decode : Nat → Outline → Except DecodeError α) :
    Outline → Except DecodeError (List α)
  | .list items => do
      m.enter depth
      items.mapM (decode (depth + 1))
  | o => .error (o.mismatch "a sequence")

/-- Headers: an object of texts. -/
def asHeaders (m : Medium) (depth : Nat) : Outline → Except DecodeError Headers
  | .object entries => do
      m.enter depth
      let pairs ← entries.mapM fun (key, item) => do
        let key ← keyText key
        let item ← item.asText
        return (key, item)
      return .ofPairs pairs
  | o => .error (o.mismatch "a map")

/-- One of a few names: a text, or an object with the name as its only key and null under it.
The name is looked up before what stands under it is looked at. -/
def asVariant {α : Type} (known : List (String × α)) : Outline → Except DecodeError α
  | .text s => choose s
  | .object ((key, item) :: rest) => do
      let v ← match key with
        | .text s => choose s
        | _ => .error .unreadable
      match item with
        | .null => if rest.isEmpty then .ok v else .error .unreadable
        | item => .error (item.mismatch "unit")
  | _ => .error .unreadable
where
  /-- Looks a name up. -/
  choose (s : String) : Except DecodeError α :=
    match Keyed.find? s known with
    | some v => .ok v
    | none => .error (.unknownVariant s (known.map Prod.fst))

-- ==================================================================== records

/-- The name of a record and those of its fields, in order. -/
structure RecordShape where
  name : String
  fields : List String

namespace RecordShape

/-- The field that a key names, by its name or by its index, or none if it names no known
one. -/
def fieldIndex? (shape : RecordShape) : Outline → Except DecodeError (Option Nat)
  | .text s => .ok (shape.fields.findIdx? (· == s))
  | .bytes b => .ok (shape.fields.findIdx? (·.toUTF8.toList == b))
  | .int n =>
      if 0 ≤ n.val then
        .ok (if n.val.toNat < shape.fields.length then some n.val.toNat else none)
      else .error .unreadable
  | _ => .error .unreadable

/-- What a record wants to be. -/
def wanted (shape : RecordShape) : String := "struct " ++ shape.name

/-- The error for a field missing from an object. -/
def missing (shape : RecordShape) (i : Nat) : DecodeError :=
  .missingField (shape.fields.getD i "")

/-- The error for a field missing from a list. -/
def tooShort (shape : RecordShape) (i : Nat) : DecodeError :=
  .wrongLength i (shape.wanted ++ " with " ++ toString shape.fields.length ++ " elements")

end RecordShape

variable {σ : Type}

/-- Reads the fields of an object into a draft; `seen` are the fields read so far. -/
def readEntries (m : Medium) (shape : RecordShape) (depth : Nat)
    (read : σ → Nat → Outline → Except DecodeError σ) (seen : List Nat) (draft : σ) :
    List (Outline × Outline) → Except DecodeError σ
  | [] => .ok draft
  | (key, item) :: entries => do
      match ← shape.fieldIndex? key with
      | none =>
          skip m depth item
          readEntries m shape depth read seen draft entries
      | some i =>
          if seen.contains i then .error (.duplicateField (shape.fields.getD i ""))
          else readEntries m shape depth read (i :: seen) (← read draft i item) entries

/-- Reads the items of a list into a draft, from field `i` on. -/
def readItems (m : Medium) (shape : RecordShape) (total : Nat)
    (read : σ → Nat → Outline → Except DecodeError σ) (i : Nat) (draft : σ) :
    List Outline → Except DecodeError σ
  | [] => .ok draft
  | item :: items => do
      if i < shape.fields.length then
        readItems m shape total read (i + 1) (← read draft i item) items
      else if m.reportsSurplus then
        .error (.wrongLength total "fewer elements in array")
      else .error .unreadable

/-- Reads a record into a draft; also the error for each field that is missing from it. -/
def readRecord (m : Medium) (shape : RecordShape) (depth : Nat)
    (read : σ → Nat → Outline → Except DecodeError σ) (draft : σ) :
    Outline → Except DecodeError (σ × (Nat → DecodeError))
  | .object entries => do
      m.enter depth
      return (← readEntries m shape (depth + 1) read [] draft entries, shape.missing)
  | .list items => do
      m.enter depth
      return (← readItems m shape items.length read 0 draft items, shape.tooShort)
  | o => .error (o.mismatch shape.wanted)

end Outline

end DeviceTwin
