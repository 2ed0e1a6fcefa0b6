/-
Lists of entries in the order of their keys: the finite maps of this
library.

A map from texts is kept as a list of pairs with strictly rising keys,
which is also the order in which it is written. Keys compare by code
point, which for texts is the order of their UTF-8 bytes. `insert` goes
through the list once and replaces an entry with the same key, so the
laws on `find?` hold of any list; `Sorted` is needed only for
extensionality (`Sorted.ext`): two sorted lists that answer every look-up
alike are the same list.
-/

namespace DeviceTwin.Keyed

variable {α β : Type}

-- ============================================================== operations

/-- The value under a key. -/
def find? (k : String) : List (String × α) → Option α
  | [] => none
  | (k', v) :: rest => if k = k' then some v else find? k rest

/-- Puts a value under a key, in place of the one that was there. -/
def insert (k : String) (v : α) : List (String × α) → List (String × α)
  | [] => [(k, v)]
  | (k', v') :: rest =>
      if k < k' then (k, v) :: (k', v') :: rest
      else if k = k' then (k, v) :: rest
      else (k', v') :: insert k v rest

/-- Takes the entry of a key out. -/
def erase (k : String) (entries : List (String × α)) : List (String × α) :=
  entries.filter fun e => e.1 ≠ k

/-- The map of a list of pairs in which a later pair wins. -/
def ofList (pairs : List (String × α)) : List (String × α) :=
  pairs.foldl (fun entries e => insert e.1 e.2 entries) []

/-- Strictly rising keys. -/
def Sorted (entries : List (String × α)) : Prop :=
  entries.Pairwise fun a b => a.1 < b.1

-- ================================================================= look-ups

@[simp] theorem find?_nil (k : String) : find? k ([] : List (String × α)) = none := rfl

theorem find?_cons (k k' : String) (v : α) (rest : List (String × α)) :
    find? k ((k', v) :: rest) = if k = k' then some v else find? k rest := rfl

@[simp] theorem find?_insert_self (k : String) (v : α) (entries : List (String × α)) :
    find? k (insert k v entries) = some v := by
  induction entries with
  | nil => simp [insert, find?_cons]
  | cons e rest ih =>
    obtain ⟨k', v'⟩ := e
    rw [insert]
    split
    · simp [find?_cons]
    · split
      · simp [find?_cons]
      · simp_all [find?_cons]

theorem find?_insert_of_ne {k k' : String} (h : k' ≠ k) (v : α) (entries : List (String × α)) :
    find? k' (insert k v entries) = find? k' entries := by
  induction entries with
  | nil => simp [insert, find?_cons, h]
  | cons e rest ih =>
    obtain ⟨k'', v''⟩ := e
    rw [insert]
    split
    · simp [find?_cons, h]
    · split
      · rename_i he
        simp [find?_cons, ← he, h]
      · by_cases hk : k' = k'' <;> simp [find?_cons, hk, ih]

@[simp] theorem find?_erase_self (k : String) (entries : List (String × α)) :
    find? k (erase k entries) = none := by
  induction entries with
  | nil => rfl
  | cons e rest ih =>
    obtain ⟨k', v'⟩ := e
    by_cases h : k' = k
    · simpa [erase, h] using ih
    · have : find? k ((k', v') :: erase k rest) = none := by
        simp [find?_cons, Ne.symm h, ih]
      simpa [erase, h] using this

theorem find?_erase_of_ne {k k' : String} (h : k' ≠ k) (entries : List (String × α)) :
    find? k' (erase k entries) = find? k' entries := by
  induction entries with
  | nil => rfl
  | cons e rest ih =>
    obtain ⟨k'', v''⟩ := e
    by_cases hk : k'' = k
    · simp only [erase, hk, ne_eq, not_true_eq_false, decide_false, Bool.false_eq_true,
        not_false_eq_true, List.filter_cons_of_neg, find?_cons, h, if_false]
      exact ih
    · simp only [erase, ne_eq, hk, not_false_eq_true, decide_true, List.filter_cons_of_pos,
        find?_cons]
      split
      · rfl
      · exact ih

-- ==================================================================== order

theorem sorted_nil : Sorted ([] : List (String × α)) := List.Pairwise.nil

theorem mem_insert {k : String} {v : α} {e : String × α} {entries : List (String × α)}
    (h : e ∈ insert k v entries) : e = (k, v) ∨ e ∈ entries := by
  induction entries with
  | nil => simpa [insert] using h
  | cons d rest ih =>
    obtain ⟨k', v'⟩ := d
    rw [insert] at h
    split at h
    · simpa using h
    · split at h
      · rcases List.mem_cons.1 h with h | h
        · exact .inl h
        · exact .inr (List.mem_cons_of_mem _ h)
      · rcases List.mem_cons.1 h with h | h
        · exact .inr (h ▸ List.mem_cons_self)
        · exact (ih h).imp id (List.mem_cons_of_mem _)

theorem lt_of_not_lt_of_ne {a b : String} (h : ¬ a < b) (hne : a ≠ b) : b < a := by
  have hle : b ≤ a := h
  apply Decidable.byContradiction
  intro hn
  exact hne (String.le_antisymm hn hle)

theorem Sorted.insert {k : String} {v : α} {entries : List (String × α)} (h : Sorted entries) :
    Sorted (insert k v entries) := by
  induction entries with
  | nil => simp [Keyed.insert, Sorted]
  | cons e rest ih =>
    obtain ⟨k', v'⟩ := e
    have hrest := List.pairwise_cons.1 h
    rw [Keyed.insert]
    split
    · rename_i hlt
      refine List.pairwise_cons.2 ⟨fun a ha => ?_, h⟩
      rcases List.mem_cons.1 ha with rfl | ha
      · exact hlt
      · exact String.lt_trans hlt (hrest.1 a ha)
    · split
      · rename_i he
        exact List.pairwise_cons.2 ⟨fun a ha => he ▸ hrest.1 a ha, hrest.2⟩
      · rename_i hlt hne
        refine List.pairwise_cons.2 ⟨fun a ha => ?_, ih hrest.2⟩
        rcases mem_insert ha with rfl | ha
        · exact lt_of_not_lt_of_ne hlt hne
        · exact hrest.1 a ha

theorem Sorted.erase {k : String} {entries : List (String × α)} (h : Sorted entries) :
    Sorted (erase k entries) := h.filter _

theorem sorted_ofList (pairs : List (String × α)) : Sorted (ofList pairs) := by
  suffices h : ∀ entries : List (String × α), Sorted entries →
      Sorted (pairs.foldl (fun entries e => insert e.1 e.2 entries) entries) from h [] sorted_nil
  induction pairs with
  | nil => exact fun _ h => h
  | cons e rest ih => exact fun entries h => ih _ h.insert

theorem mem_ofList {pairs : List (String × α)} {e : String × α} (h : e ∈ ofList pairs) :
    e ∈ pairs := by
  suffices hs : ∀ entries : List (String × α),
      e ∈ pairs.foldl (fun entries e => insert e.1 e.2 entries) entries → e ∈ entries ∨ e ∈ pairs by
    simpa using hs [] h
  clear h
  induction pairs with
  | nil => exact fun _ h => .inl h
  | cons d rest ih =>
    intro entries h
    rcases ih _ h with h | h
    · rcases mem_insert h with h | h
      · exact .inr (h ▸ List.mem_cons_self)
      · exact .inl h
    · exact .inr (List.mem_cons_of_mem _ h)

/-- Below all keys of a sorted list there is nothing to find. -/
theorem find?_eq_none_of_lt {k : String} {entries : List (String × α)}
    (h : ∀ e ∈ entries, k < e.1) : find? k entries = none := by
  induction entries with
  | nil => rfl
  | cons e rest ih =>
    obtain ⟨k', v'⟩ := e
    have hne : k ≠ k' := fun he => String.lt_irrefl k' (he ▸ h _ List.mem_cons_self)
    simpa [find?_cons, hne] using ih fun e he => h e (List.mem_cons_of_mem _ he)

/-- A sorted list is determined by its look-ups. -/
theorem Sorted.ext {l m : List (String × α)} (hl : Sorted l) (hm : Sorted m)
    (h : ∀ k, find? k l = find? k m) : l = m := by
  induction l generalizing m with
  | nil =>
    cases m with
    | nil => rfl
    | cons e rest =>
      obtain ⟨k, v⟩ := e
      have := h k
      simp [find?_cons] at this
  | cons e l ih =>
    obtain ⟨k, v⟩ := e
    cases m with
    | nil => simpa [find?_cons] using h k
    | cons d m =>
      obtain ⟨k', v'⟩ := d
      have hl' := List.pairwise_cons.1 hl
      have hm' := List.pairwise_cons.1 hm
      have hk : k = k' := by
        apply Decidable.byContradiction
        intro hne
        by_cases hlt : k < k'
        · have := h k
          rw [find?_cons, if_pos rfl, find?_cons, if_neg hne,
            find?_eq_none_of_lt fun e he => String.lt_trans hlt (hm'.1 e he)] at this
          cases this
        · have hgt := lt_of_not_lt_of_ne hlt hne
          have := h k'
          rw [find?_cons, if_neg (Ne.symm hne), find?_cons, if_pos rfl,
            find?_eq_none_of_lt fun e he => String.lt_trans hgt (hl'.1 e he)] at this
          cases this
      subst hk
      have hv : v = v' := by simpa [find?_cons] using h k
      subst hv
      have : l = m := ih hl'.2 hm'.2 fun j => by
        by_cases hj : j = k
        · subst hj
          rw [find?_eq_none_of_lt hl'.1, find?_eq_none_of_lt hm'.1]
        · simpa [find?_cons, hj] using h j
      rw [this]

end DeviceTwin.Keyed
