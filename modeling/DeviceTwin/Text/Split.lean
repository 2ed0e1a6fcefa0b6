/-
Cutting texts at a character and putting pieces back together.

Everything is over `List Char`, where the recursion is on the data and a
proof is one induction. `splitAt` cuts at every occurrence of a
character, `cutAt?` at the first one only, `substitute` exchanges every
occurrence of one text for another from left to right, and `joinWith`
undoes `splitAt` (`joinWith_splitAt`).
-/

namespace DeviceTwin.Text

-- ================================================================== cutting

/-- The pieces between the occurrences of `sep`: one more than there are
occurrences, so the empty text has one empty piece. -/
def splitAt (sep : Char) : List Char → List (List Char)
  | [] => [[]]
  | c :: cs =>
      if c = sep then [] :: splitAt sep cs
      else match splitAt sep cs with
        | [] => [[c]]
        | piece :: pieces => (c :: piece) :: pieces

/-- What stands before and after the first `sep`. -/
def cutAt? (sep : Char) : List Char → Option (List Char × List Char)
  | [] => none
  | c :: cs =>
      if c = sep then some ([], cs)
      else (cutAt? sep cs).map fun (before, after) => (c :: before, after)

/-- The pieces with `sep` between neighbours. -/
def joinWith (sep : Char) : List (List Char) → List Char
  | [] => []
  | [piece] => piece
  | piece :: pieces => piece ++ sep :: joinWith sep pieces

/-- There is always a first piece. -/
theorem splitAt_ne_nil (sep : Char) (cs : List Char) : splitAt sep cs ≠ [] := by
  cases cs with
  | nil => simp [splitAt]
  | cons c cs =>
    simp only [splitAt]
    split
    · simp
    · split <;> simp

/-- Joining undoes cutting. -/
theorem joinWith_splitAt (sep : Char) (cs : List Char) : joinWith sep (splitAt sep cs) = cs := by
  induction cs with
  | nil => rfl
  | cons c cs ih =>
    cases hs : splitAt sep cs with
    | nil => exact absurd hs (splitAt_ne_nil sep cs)
    | cons piece pieces =>
      rw [hs] at ih
      by_cases hc : c = sep
      · simp [splitAt, hc, hs, joinWith, ih]
      · cases pieces <;> simp_all [splitAt, joinWith]

/-- No piece holds the separator. -/
theorem not_mem_of_mem_splitAt {sep : Char} {cs piece : List Char} (h : piece ∈ splitAt sep cs) :
    sep ∉ piece := by
  induction cs generalizing piece with
  | nil => simp_all [splitAt]
  | cons c cs ih =>
    simp only [splitAt] at h
    split at h
    · rcases List.mem_cons.1 h with rfl | h
      · simp
      · exact ih h
    · rename_i hc
      split at h
      · obtain rfl := List.mem_singleton.1 h
        exact fun hm => hc (List.mem_singleton.1 hm).symm
      · rename_i p ps hs
        rcases List.mem_cons.1 h with rfl | h
        · have := ih (hs ▸ List.mem_cons_self : p ∈ splitAt sep cs)
          exact fun hm => (List.mem_cons.1 hm).elim (fun e => hc e.symm) this
        · exact ih (hs ▸ List.mem_cons_of_mem _ h)

/-- The parts of a cut and the character between them are the whole text. -/
theorem eq_of_cutAt? {sep : Char} {cs before after : List Char}
    (h : cutAt? sep cs = some (before, after)) : cs = before ++ sep :: after := by
  induction cs generalizing before with
  | nil => simp [cutAt?] at h
  | cons c cs ih =>
    simp only [cutAt?] at h
    split at h
    · simp_all
    · obtain ⟨⟨b, a⟩, hb, he⟩ := Option.map_eq_some_iff.1 h
      simp only [Prod.mk.injEq] at he
      obtain ⟨rfl, rfl⟩ := he
      simp [ih hb]

-- ============================================================== exchanging

/-- Exchanges every occurrence of `old` for `new`, from the left and
without overlap; `skip` characters of an occurrence are still to be
passed over. -/
def substituteFrom (old new : List Char) (skip : Nat) : List Char → List Char
  | [] => []
  | c :: cs =>
      match skip with
      | skip + 1 => substituteFrom old new skip cs
      | 0 =>
          if old.isPrefixOf (c :: cs) then new ++ substituteFrom old new (old.length - 1) cs
          else c :: substituteFrom old new 0 cs

/-- Exchanges every occurrence of `old`, which is not empty, for `new`. -/
def substitute (old new cs : List Char) : List Char := substituteFrom old new 0 cs

/-- The end of a text. -/
def endsWith (ending cs : List Char) : Bool := ending.isSuffixOf cs

end DeviceTwin.Text
