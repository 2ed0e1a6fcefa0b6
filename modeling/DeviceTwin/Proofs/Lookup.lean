/-
Lists of records that are known by a key.

Subscriptions, replies, timers and calls are kept in lists and looked up
by a number or a key that no two of them share. What is said here holds
of every such list: who is found, and what looking finds after a record
was added, changed or taken out; and how the records go with their parts,
as calls do with the subscriptions that they hold.
-/
import Mathlib.Data.List.Basic
import Mathlib.Data.List.Nodup
import Mathlib.Data.List.Pairwise

namespace DeviceTwin.Lookup

variable {α β κ : Type} {key : α → κ} {l : List α}

-- ================================================================== looking

section Looking

variable [BEq κ]

/-- A change that keeps the keys changes what is found. -/
theorem find?_map {f : α → α} (hf : ∀ x, key (f x) = key x) (k : κ) :
    (l.map f).find? (fun y => key y == k)
      = (l.find? (fun y => key y == k)).map f := by
  rw [List.find?_map]
  congr 2
  funext x
  simp [hf]

/-- A change that keeps the keys can be made before or after a key is
taken out. -/
theorem filter_map_ne {f : α → α} (hf : ∀ x, key (f x) = key x) (k : κ) :
    (l.map f).filter (fun y => key y != k)
      = (l.filter (fun y => key y != k)).map f := by
  have hkey : (fun y => key y != k) ∘ f = fun y => key y != k := by
    funext x
    simp [hf]
  rw [List.filter_map, hkey]

variable [LawfulBEq κ]

/-- Where keys differ, looking for a key finds the record with the key. -/
theorem find?_eq_some_iff (hn : (l.map key).Nodup) {k : κ} {x : α} :
    l.find? (fun y => key y == k) = some x ↔ x ∈ l ∧ key x = k := by
  constructor
  · intro hf
    exact ⟨List.mem_of_find?_eq_some hf,
      by simpa using List.find?_some hf⟩
  · rintro ⟨hx, rfl⟩
    cases hf : l.find? (fun y => key y == key x) with
    | none =>
        have := List.find?_eq_none.mp hf x hx
        simp at this
    | some y =>
        have hk : key y = key x := by simpa using List.find?_some hf
        rw [List.inj_on_of_nodup_map hn (List.mem_of_find?_eq_some hf) hx hk]

theorem find?_eq_none_iff {k : κ} :
    l.find? (fun y => key y == k) = none ↔ ∀ x ∈ l, key x ≠ k := by
  simp [List.find?_eq_none]

/-- After a key was taken out it is not found, and every other is. -/
theorem find?_filter_ne [DecidableEq κ] (k' k : κ) :
    (l.filter (fun y => key y != k')).find? (fun y => key y == k)
      = if k = k' then none else l.find? (fun y => key y == k) := by
  rw [List.find?_filter]
  split
  case isTrue h =>
    rw [List.find?_eq_none]
    rintro x - hx
    simp [h] at hx
  case isFalse h =>
    congr 1
    funext x
    by_cases hx : key x = k
    · simp [hx, h]
    · simp [hx]

/-- Where no record has a key, taking the key out changes nothing. -/
theorem filter_ne_eq_self {k : κ} (h : ∀ x ∈ l, key x ≠ k) :
    l.filter (fun y => key y != k) = l := by
  rw [List.filter_eq_self]
  intro x hx
  simpa using h x hx

/-- A record that is added is found under its own key and no other. -/
theorem find?_concat_ne {x : α} {k : κ} (h : key x ≠ k) :
    (l ++ [x]).find? (fun y => key y == k)
      = l.find? (fun y => key y == k) := by
  rw [List.find?_append]
  simp [h]

theorem find?_concat_self {x : α} (h : ∀ y ∈ l, key y ≠ key x) :
    (l ++ [x]).find? (fun y => key y == key x) = some x := by
  rw [List.find?_append, find?_eq_none_iff.mpr h]
  simp

end Looking

-- =================================================================== adding

/-- What holds of all records and of one more holds of all when it is
added. -/
theorem forall_mem_concat {P : α → Prop} {x : α} (h : ∀ y ∈ l, P y)
    (hx : P x) : ∀ y ∈ l ++ [x], P y :=
  List.forall_mem_append.mpr ⟨h, List.forall_mem_singleton.mpr hx⟩

/-- A record with a key of its own may be added. -/
theorem nodup_concat (hn : (l.map key).Nodup) {x : α}
    (hx : ∀ y ∈ l, key y ≠ key x) : ((l ++ [x]).map key).Nodup := by
  rw [List.map_append, List.map_singleton, List.nodup_append]
  refine ⟨hn, List.nodup_singleton _, ?_⟩
  intro k hk k' hk'
  obtain ⟨y, hy, rfl⟩ := List.mem_map.mp hk
  rw [List.mem_singleton.mp hk']
  exact hx y hy

-- ==================================================================== parts

/-- Records that are taken out take their parts along. -/
theorem filterMap_filter {f : α → Option β} {p : α → Bool} {q : β → Bool}
    (h : ∀ x ∈ l, ∀ y, f x = some y → p x = q y) :
    (l.filter p).filterMap f = (l.filterMap f).filter q := by
  rw [List.filterMap_filter, List.filter_filterMap]
  refine List.filterMap_congr fun x hx => ?_
  cases hy : f x with
  | none => simp
  | some y => simp [h x hx y hy, Option.filter]

/-- Where parts differ in their keys, a record is known by its part. -/
theorem eq_of_filterMap {f : α → Option β} {key : β → κ}
    (hn : ((l.filterMap f).map key).Nodup) {x y : α} (hx : x ∈ l)
    (hy : y ∈ l) {a b : β} (ha : f x = some a) (hb : f y = some b)
    (hk : key a = key b) : x = y := by
  rw [List.Nodup, List.pairwise_map, List.pairwise_filterMap] at hn
  by_contra hne
  have : Std.Symm fun x y : α =>
      ∀ a, f x = some a → ∀ b, f y = some b → key a ≠ key b :=
    ⟨fun _ _ h b hb a ha heq => h a ha b hb heq.symm⟩
  exact hn.forall hx hy hne a ha b hb hk

/-- The first part in a list is that of its head, or else the first in
its tail. -/
theorem findSome?_cons {f : α → Option β} (x : α) :
    (x :: l).findSome? f = (f x).or (l.findSome? f) := by
  rw [List.findSome?_cons]
  cases f x <;> rfl

end DeviceTwin.Lookup
