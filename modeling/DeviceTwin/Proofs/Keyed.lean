/-
Lists in the order of their keys.

A map is a list of entries whose keys rise strictly, so it is known by what
is in it: entries that are in order already are the map of themselves
(`ofList_of_sorted`), and pairs in any order make the map that the same
pairs in order are (`ofList_eq_of_perm`), if no key comes twice.
-/
import DeviceTwin.Keyed
import Mathlib.Data.List.Perm.Basic

namespace DeviceTwin.Keyed

variable {α : Type}

/-- A key above all others is put at the end. -/
theorem insert_of_lt {k : String} {entries : List (String × α)} (v : α)
    (h : ∀ e ∈ entries, e.1 < k) : insert k v entries = entries ++ [(k, v)] := by
  induction entries with
  | nil => rfl
  | cons e entries ih =>
      obtain ⟨k', v'⟩ := e
      have hlt : k' < k := h _ List.mem_cons_self
      have hnot : ¬ k < k' := fun hgt =>
        String.lt_irrefl k (String.lt_trans hgt hlt)
      have hne : k ≠ k' := by
        rintro rfl
        exact String.lt_irrefl k hlt
      rw [insert, if_neg hnot, if_neg hne,
        ih fun e he => h e (List.mem_cons_of_mem _ he)]
      rfl

/-- Entries that are in order are a map already. -/
theorem ofList_of_sorted {entries : List (String × α)} (h : Sorted entries) :
    ofList entries = entries := by
  suffices hs : ∀ done : List (String × α), Sorted (done ++ entries) →
      entries.foldl (fun map e => insert e.1 e.2 map) done
        = done ++ entries from hs [] h
  clear h
  induction entries with
  | nil => exact fun done _ => (List.append_nil done).symm
  | cons e entries ih =>
      intro done h
      have hbelow : ∀ d ∈ done, d.1 < e.1 := fun d hd =>
        (List.pairwise_append.mp h).2.2 d hd e List.mem_cons_self
      rw [List.append_cons] at h
      rw [List.foldl_cons, insert_of_lt _ hbelow, ih _ h,
        List.append_assoc]
      rfl

/-- A new key is put somewhere. -/
theorem insert_perm {k : String} {entries : List (String × α)} (v : α)
    (h : ∀ e ∈ entries, e.1 ≠ k) :
    (insert k v entries).Perm ((k, v) :: entries) := by
  induction entries with
  | nil => exact .refl _
  | cons e entries ih =>
      obtain ⟨k', v'⟩ := e
      have hne : k ≠ k' := Ne.symm (h _ List.mem_cons_self)
      rw [insert, if_neg hne]
      split
      · exact .refl _
      · have hrest := ih fun e he => h e (List.mem_cons_of_mem _ he)
        exact (hrest.cons _).trans (.swap _ _ _)

/-- A map has the entries that it was made of, where no key comes
twice. -/
theorem ofList_perm {pairs : List (String × α)}
    (h : (pairs.map Prod.fst).Nodup) : (ofList pairs).Perm pairs := by
  suffices hs : ∀ done : List (String × α),
      ((done ++ pairs).map Prod.fst).Nodup →
      (pairs.foldl (fun map e => insert e.1 e.2 map) done).Perm
        (done ++ pairs) from hs [] h
  clear h
  induction pairs with
  | nil =>
      intro done _
      rw [List.append_nil]
      exact .refl _
  | cons e pairs ih =>
      intro done h
      have hnew : ∀ d ∈ done, d.1 ≠ e.1 := by
        intro d hd
        rw [List.map_append, List.nodup_append] at h
        exact h.2.2 d.1 (List.mem_map_of_mem hd) e.1 (by simp)
      have hmove : (insert e.1 e.2 done ++ pairs).Perm (done ++ e :: pairs) :=
        ((insert_perm e.2 hnew).append_right pairs).trans
          List.perm_middle.symm
      rw [List.foldl_cons]
      exact (ih _ ((hmove.map Prod.fst).nodup_iff.mpr h)).trans hmove

/-- Keys in order are different keys. -/
theorem Sorted.nodup {entries : List (String × α)} (h : Sorted entries) :
    (entries.map Prod.fst).Nodup := by
  rw [List.Nodup, List.pairwise_map]
  refine List.Pairwise.imp (fun {a b} hab heq => ?_) h
  rw [heq] at hab
  exact String.lt_irrefl _ hab

/-- In a list in order the value under a key is that of its entry. -/
theorem Sorted.find?_eq_some {entries : List (String × α)} (h : Sorted entries) {k : String}
    {v : α} : find? k entries = some v ↔ (k, v) ∈ entries := by
  induction entries with
  | nil => simp
  | cons e entries ih =>
      obtain ⟨k', v'⟩ := e
      obtain ⟨hlt, hrest⟩ := List.pairwise_cons.mp h
      rw [find?_cons, List.mem_cons]
      by_cases hk : k = k'
      · subst hk
        have hnot : (k, v) ∉ entries := fun hmem => String.lt_irrefl k (hlt _ hmem)
        simp [hnot, eq_comm]
      · simp [hk, ih hrest]

/-- The map of some pairs is what they are when they are in order. -/
theorem ofList_eq_of_perm {pairs entries : List (String × α)}
    (h : pairs.Perm entries) (hs : Sorted entries) :
    ofList pairs = entries := by
  have hperm := ofList_perm ((h.map Prod.fst).nodup_iff.mpr hs.nodup)
  refine List.Perm.eq_of_pairwise (fun a b _ _ hab hba => ?_)
    (sorted_ofList pairs) hs (hperm.trans h)
  exact absurd (String.lt_trans hab hba) (String.lt_irrefl _)

/-- Entries are in order if their keys are among names that are. -/
theorem sorted_of_sublist {entries : List (String × α)} {names : List String}
    (h : (entries.map Prod.fst).Sublist names)
    (hnames : names.Pairwise (· < ·)) : Sorted entries :=
  List.pairwise_map.mp (hnames.sublist h)

end DeviceTwin.Keyed
