/-
Free values: the trees that payloads are made of.

A value is null, a boolean, a number, a text, a list or an object. An
object is a list of entries, because the writers of the wire formats use
the same trees with entries in an order of their own choosing. A payload
is a value all of whose objects have strictly rising keys
(`Value.Canonical`); then equal trees and equal contents are the same
thing. Payloads are only made by functions that establish this, so a
signal cannot hold an object with a key twice or out of order.
-/
import DeviceTwin.Keyed
import DeviceTwin.Number.Basic

namespace DeviceTwin

/-- A tree of null, booleans, numbers, texts, lists and objects. -/
inductive Value where
  | null
  | bool (b : Bool)
  | int (n : Integer)
  | float (x : Double)
  | text (s : String)
  | list (items : List Value)
  | object (entries : List (String × Value))

namespace Value

-- ================================================================= equality

mutual

/-- Equality of trees, with a comparison of floating-point numbers of its own. -/
def equalBy (eqv : Double → Double → Bool) : Value → Value → Bool
  | .null, .null => true
  | .bool a, .bool b => a == b
  | .int a, .int b => decide (a = b)
  | .float a, .float b => eqv a b
  | .text a, .text b => a == b
  | .list a, .list b => equalListBy eqv a b
  | .object a, .object b => equalEntriesBy eqv a b
  | _, _ => false

/-- Equality of lists, item by item. -/
def equalListBy (eqv : Double → Double → Bool) : List Value → List Value → Bool
  | [], [] => true
  | a :: as, b :: bs => equalBy eqv a b && equalListBy eqv as bs
  | _, _ => false

/-- Equality of entries, key by key and value by value. -/
def equalEntriesBy (eqv : Double → Double → Bool) :
    List (String × Value) → List (String × Value) → Bool
  | [], [] => true
  | (k, a) :: as, (l, b) :: bs => k == l && equalBy eqv a b && equalEntriesBy eqv as bs
  | _, _ => false

end

mutual

theorem equalBy_iff (a b : Value) : equalBy (fun x y => decide (x = y)) a b ↔ a = b := by
  cases a <;> cases b <;>
    simp [equalBy, equalListBy_iff _ _, equalEntriesBy_iff _ _]

theorem equalListBy_iff (a b : List Value) :
    equalListBy (fun x y => decide (x = y)) a b ↔ a = b := by
  cases a <;> cases b <;>
    simp [equalListBy, equalBy_iff _ _, equalListBy_iff _ _]

theorem equalEntriesBy_iff (a b : List (String × Value)) :
    equalEntriesBy (fun x y => decide (x = y)) a b ↔ a = b := by
  match a, b with
  | [], [] => simp [equalEntriesBy]
  | [], _ :: _ => simp [equalEntriesBy]
  | _ :: _, [] => simp [equalEntriesBy]
  | (k, v) :: as, (l, w) :: bs =>
    simp [equalEntriesBy, equalBy_iff v w, equalEntriesBy_iff as bs]

end

instance : DecidableEq Value := fun a b => decidable_of_iff _ (equalBy_iff a b)

/-- The same tree but for the signs of floating-point zeros. -/
def agrees (a b : Value) : Bool := equalBy Double.agrees a b

-- ================================================================ canonicity

mutual

/-- Every object in the tree has strictly rising keys. -/
def Canonical : Value → Prop
  | .list items => ListCanonical items
  | .object entries => Keyed.Sorted entries ∧ EntriesCanonical entries
  | _ => True

/-- Every item is canonical. -/
def ListCanonical : List Value → Prop
  | [] => True
  | item :: items => Canonical item ∧ ListCanonical items

/-- Every value under a key is canonical. -/
def EntriesCanonical : List (String × Value) → Prop
  | [] => True
  | (_, v) :: entries => Canonical v ∧ EntriesCanonical entries

end

theorem listCanonical_iff {items : List Value} :
    ListCanonical items ↔ ∀ v ∈ items, Canonical v := by
  induction items with
  | nil => simp [ListCanonical]
  | cons item items ih => simp [ListCanonical, ih]

theorem entriesCanonical_iff {entries : List (String × Value)} :
    EntriesCanonical entries ↔ ∀ e ∈ entries, Canonical e.2 := by
  induction entries with
  | nil => simp [EntriesCanonical]
  | cons e entries ih => simp [EntriesCanonical, ih]

/-- The object of a list of pairs in which a later pair wins. -/
def ofPairs (pairs : List (String × Value)) : Value := .object (Keyed.ofList pairs)

theorem canonical_ofPairs {pairs : List (String × Value)} (h : ∀ e ∈ pairs, Canonical e.2) :
    Canonical (ofPairs pairs) :=
  ⟨Keyed.sorted_ofList pairs,
    entriesCanonical_iff.2 fun e he => h e (Keyed.mem_ofList he)⟩

theorem canonical_list {items : List Value} (h : ∀ v ∈ items, Canonical v) :
    Canonical (.list items) := listCanonical_iff.2 h

end Value

-- ================================================================== payloads

/-- A value whose objects all have strictly rising keys. -/
structure Payload where
  value : Value
  canonical : value.Canonical
  deriving DecidableEq

namespace Payload

/-- The payload null, which is not the same as no payload. -/
def null : Payload := ⟨.null, trivial⟩

/-- A text as a payload. -/
def text (s : String) : Payload := ⟨.text s, trivial⟩

/-- The object of a list of pairs in which a later pair wins. -/
def ofPairs (pairs : List (String × Payload)) : Payload where
  value := Value.ofPairs (pairs.map fun e => (e.1, e.2.value))
  canonical := Value.canonical_ofPairs fun e he => by
    obtain ⟨d, -, rfl⟩ := List.mem_map.1 he
    exact d.2.canonical

/-- The list of payloads. -/
def ofList (items : List Payload) : Payload where
  value := .list (items.map Payload.value)
  canonical := Value.canonical_list fun v hv => by
    obtain ⟨p, -, rfl⟩ := List.mem_map.1 hv
    exact p.canonical

/-- The same payload but for the signs of floating-point zeros. -/
def agrees (a b : Payload) : Bool := a.value.agrees b.value

end Payload

end DeviceTwin
