/-
Computations that can fail.

Decoders are written step after step, and a result means that every step
had one. What is said here takes such a result apart, for two steps, for
a step per item of a list, and for items that change a state one after
the other.
-/
import Mathlib.Data.List.Forall2

namespace DeviceTwin.Result

variable {ε α β σ : Type}

/-- Two steps have a result when the first has one and the second has one
for it. -/
theorem bind_eq_ok {x : Except ε α} {f : α → Except ε β} {b : β} :
    (x >>= f) = .ok b ↔ ∃ a, x = .ok a ∧ f a = .ok b := by
  cases x with
  | ok a => exact ⟨fun h => ⟨a, rfl, h⟩, fun ⟨_, ha, hf⟩ => by cases ha; exact hf⟩
  | error e => exact ⟨nofun, fun ⟨_, ha, _⟩ => by cases ha⟩

theorem map_eq_ok {x : Except ε α} {f : α → β} {b : β} :
    x.map f = .ok b ↔ ∃ a, x = .ok a ∧ f a = b := by
  cases x with
  | ok a =>
      exact ⟨fun h => ⟨a, rfl, Except.ok.inj h⟩,
        fun ⟨_, ha, hf⟩ => by cases ha; exact congrArg Except.ok hf⟩
  | error e => exact ⟨nofun, fun ⟨_, ha, _⟩ => by cases ha⟩

theorem mapError_eq_ok {ε' : Type} {x : Except ε α} {f : ε → ε'} {a : α}
    (h : x.mapError f = .ok a) : x = .ok a := by
  cases x with
  | ok b => exact congrArg Except.ok (Except.ok.inj h)
  | error e => cases h

/-- What every item keeps the whole list keeps. -/
theorem foldlM_keeps {P : σ → Prop} {f : σ → α → Except ε σ} {l : List α}
    (hstep : ∀ a ∈ l, ∀ s s', P s → f s a = .ok s' → P s') :
    ∀ {s s' : σ}, P s → l.foldlM f s = .ok s' → P s' := by
  induction l with
  | nil =>
      intro s s' hs h
      obtain rfl := Except.ok.inj h
      exact hs
  | cons a l ih =>
      intro s s' hs h
      rw [List.foldlM_cons] at h
      obtain ⟨t, ht, hrest⟩ := bind_eq_ok.mp h
      exact ih (fun b hb => hstep b (List.mem_cons_of_mem _ hb))
        (hstep a List.mem_cons_self s t hs ht) hrest

theorem foldlM_cons {f : σ → α → Except ε σ} {a : α} {l : List α}
    {s t u : σ} (ha : f s a = .ok t) (hl : l.foldlM f t = .ok u) :
    (a :: l).foldlM f s = .ok u := by
  rw [List.foldlM_cons]
  exact bind_eq_ok.mpr ⟨t, ha, hl⟩

theorem foldlM_append {f : σ → α → Except ε σ} {l later : List α}
    {s t u : σ} (hl : l.foldlM f s = .ok t) (hlater : later.foldlM f t = .ok u) :
    (l ++ later).foldlM f s = .ok u := by
  rw [List.foldlM_append]
  exact bind_eq_ok.mpr ⟨t, hl, hlater⟩

theorem foldlM_cons_eq_ok {f : σ → α → Except ε σ} {a : α} {l : List α}
    {s u : σ} (h : (a :: l).foldlM f s = .ok u) :
    ∃ t, f s a = .ok t ∧ l.foldlM f t = .ok u := by
  rw [List.foldlM_cons] at h
  exact bind_eq_ok.mp h

theorem foldlM_append_eq_ok {f : σ → α → Except ε σ} {l later : List α}
    {s u : σ} (h : (l ++ later).foldlM f s = .ok u) :
    ∃ t, l.foldlM f s = .ok t ∧ later.foldlM f t = .ok u := by
  rw [List.foldlM_append] at h
  exact bind_eq_ok.mp h

/-- Steps that never fail can be taken one after the other. -/
theorem exists_foldlM {f : σ → α → Except ε σ} {l : List α}
    (h : ∀ a ∈ l, ∀ s, ∃ t, f s a = .ok t) : ∀ s, ∃ u, l.foldlM f s = .ok u := by
  induction l with
  | nil => exact fun s => ⟨s, rfl⟩
  | cons a l ih =>
      intro s
      obtain ⟨t, ht⟩ := h a List.mem_cons_self s
      obtain ⟨u, hu⟩ := ih (fun b hb => h b (List.mem_cons_of_mem _ hb)) t
      exact ⟨u, foldlM_cons ht hu⟩

/-- A list of results has the result of every item. -/
theorem mapM_eq_ok {f : α → Except ε β} :
    ∀ {l : List α} {bs : List β},
      l.mapM f = .ok bs ↔ List.Forall₂ (fun a b => f a = .ok b) l bs := by
  intro l
  induction l with
  | nil =>
      intro bs
      rw [List.mapM_nil]
      constructor
      · intro h
        obtain rfl := Except.ok.inj h
        exact .nil
      · intro h
        cases h
        rfl
  | cons a l ih =>
      intro bs
      rw [List.mapM_cons, bind_eq_ok]
      constructor
      · rintro ⟨b, hb, h⟩
        obtain ⟨bs', hbs, hcons⟩ := bind_eq_ok.mp h
        obtain rfl := Except.ok.inj hcons
        exact .cons hb (ih.mp hbs)
      · intro h
        cases h with
        | cons hb hbs =>
            exact ⟨_, hb, bind_eq_ok.mpr ⟨_, ih.mpr hbs, rfl⟩⟩

/-- Of two lists that are related item by item, every item of the second has
one of the first. -/
theorem exists_of_mem_forall₂ {R : α → β → Prop} {l : List α} {bs : List β}
    (h : List.Forall₂ R l bs) {b : β} (hb : b ∈ bs) : ∃ a ∈ l, R a b := by
  induction h with
  | nil => cases hb
  | cons ha _ ih =>
      rcases List.mem_cons.mp hb with rfl | hb
      · exact ⟨_, List.mem_cons_self, ha⟩
      · obtain ⟨a, hmem, hr⟩ := ih hb
        exact ⟨a, List.mem_cons_of_mem _ hmem, hr⟩

end DeviceTwin.Result
