/-
JSON text is read back as it is written.

What a value is written as is read as the outline of that value, with every
floating-point number as its numeral, whatever comes after it, so long as it
does not go on with the value. The induction is over the value. In each step
the fuel that is left is three times the number of characters of the part
that is still to be read, which covers the three calls that an item costs.
-/
import DeviceTwin.Proofs.Json.Decimal
import DeviceTwin.Proofs.Outline.Value

namespace DeviceTwin.Json

-- ==================================================================== values

/-- A character that a value can start with. -/
structure Opening (c : Char) : Prop where
  blank : isBlank c = false
  comma : c ≠ ','
  bracket : c ≠ ']'
  brace : c ≠ '}'

/-- A value is not passed over. -/
theorem Opening.skipBlanks {c : Char} (h : Opening c) (cs : List Char) :
    skipBlanks (c :: cs) = c :: cs := by
  unfold Json.skipBlanks
  rw [List.dropWhile_cons, h.blank]
  rfl

theorem opening_quote : Opening '"' := ⟨rfl, by decide, by decide, by decide⟩

/-- A digit is neither a blank nor a mark. -/
theorem opening_of_isDigit {c : Char} (h : c.isDigit = true) : Opening c := by
  refine ⟨?_, ?_, ?_, ?_⟩
  · unfold isBlank
    simp only [Bool.or_eq_false_iff, beq_eq_false_iff_ne]
    refine ⟨⟨⟨?_, ?_⟩, ?_⟩, ?_⟩
    all_goals
      rintro rfl
      cases h
  all_goals
    rintro rfl
    cases h

/-- An integer starts with its sign or a digit. -/
theorem exists_text_eq_cons (n : Integer) :
    ∃ c cs, n.text = c :: cs ∧ (c = '-' ∨ c.isDigit = true) := by
  unfold Integer.text
  split
  case isTrue => exact ⟨_, _, rfl, .inl rfl⟩
  case isFalse =>
    cases hd : Nat.toDigits 10 n.val.natAbs with
    | nil => exact absurd hd Nat.toDigits_ne_nil
    | cons c cs =>
        exact ⟨c, cs, rfl, .inr (isDigit_of_mem_toDigits c (hd ▸ List.mem_cons_self))⟩

/-- A value may start as a number does. -/
theorem opening_of_number {c : Char} (h : c = '-' ∨ c.isDigit = true) :
    Opening c := by
  rcases h with rfl | hdigit
  · exact ⟨rfl, by decide, by decide, by decide⟩
  · exact opening_of_isDigit hdigit

/-- No value starts with a blank or a mark. -/
theorem exists_write_eq_cons (v : Value) :
    ∃ c cs, write v = c :: cs ∧ Opening c := by
  cases v with
  | int n =>
      obtain ⟨c, cs, htext, hc⟩ := exists_text_eq_cons n
      exact ⟨c, cs, by rw [write, htext], opening_of_number hc⟩
  | float x =>
      obtain ⟨c, cs, htext, hc⟩ := exists_float_text_eq_cons x
      exact ⟨c, cs, by rw [write, htext], opening_of_number hc⟩
  | bool b =>
      cases b with
      | false => exact ⟨'f', _, rfl, rfl, by decide, by decide, by decide⟩
      | true => exact ⟨'t', _, rfl, rfl, by decide, by decide, by decide⟩
  | null => exact ⟨'n', _, rfl, rfl, by decide, by decide, by decide⟩
  | text s => exact ⟨'"', _, rfl, opening_quote⟩
  | list items => exact ⟨'[', _, by rw [write], rfl, by decide, by decide, by decide⟩
  | object entries => exact ⟨'{', _, by rw [write], rfl, by decide, by decide, by decide⟩

/-- No value is written as nothing. -/
theorem length_write_pos (v : Value) : 0 < (write v).length := by
  obtain ⟨c, cs, hwrite, -⟩ := exists_write_eq_cons v
  rw [hwrite]
  exact Nat.succ_pos _

/-- What comes behind an item does not go on with it. -/
theorem closed_writeMoreItems (items : List Value) (rest : List Char) :
    Closed (writeMoreItems items ++ rest) := by
  cases items with
  | nil => exact .bracket _
  | cons v items => exact .comma _

/-- Nor does what comes behind an entry. -/
theorem closed_writeMoreEntries (entries : List (String × Value)) (rest : List Char) :
    Closed (writeMoreEntries entries ++ rest) := by
  cases entries with
  | nil => exact .brace _
  | cons e entries => exact .comma _

theorem length_writeMoreItems_pos (items : List Value) :
    0 < (writeMoreItems items).length := by
  cases items <;> exact Nat.succ_pos _

theorem length_writeMoreEntries_pos (entries : List (String × Value)) :
    0 < (writeMoreEntries entries).length := by
  cases entries <;> exact Nat.succ_pos _

/-- The value of the first entry is smaller than the entries, for the recursion. -/
theorem sizeOf_snd_lt (e : String × Value) (entries : List (String × Value)) :
    sizeOf e.2 < sizeOf (e :: entries) := by
  obtain ⟨key, v⟩ := e
  simp only [List.cons.sizeOf_spec, Prod.mk.sizeOf_spec]
  omega

theorem writeEntries_cons (e : String × Value) (entries : List (String × Value)) :
    writeEntries (e :: entries)
      = writeText e.1 ++ ':' :: write e.2 ++ writeMoreEntries entries := by
  obtain ⟨key, v⟩ := e
  rw [writeEntries]

theorem writeMoreEntries_cons (e : String × Value) (entries : List (String × Value)) :
    writeMoreEntries (e :: entries)
      = ',' :: writeText e.1 ++ ':' :: write e.2 ++ writeMoreEntries entries := by
  obtain ⟨key, v⟩ := e
  rw [writeMoreEntries]

section steps

variable {fuel : Nat} {c : Char} {cs more rest : List Char} {o : Outline}

/-- The first item comes without a comma. -/
theorem readItems_first (h : Opening c) :
    readItems (fuel + 1) true (c :: cs) = readItem fuel (c :: cs) := by
  rw [readItems, h.skipBlanks]
  split
  case h_1 heq => exact absurd (List.cons.inj heq).1 h.bracket
  case h_2 heq => exact absurd (List.cons.inj heq).1 h.comma
  case h_3 => rfl

/-- Each further one comes after a comma. -/
theorem readItems_next (h : Opening c) :
    readItems (fuel + 1) false (',' :: c :: cs) = readItem fuel (c :: cs) := by
  have hcomma : skipBlanks (',' :: c :: cs) = ',' :: c :: cs := rfl
  rw [readItems, hcomma]
  simp only [h.skipBlanks]
  split
  case h_1 heq => cases heq
  case h_2 heq => exact absurd (List.cons.inj heq).1 h.bracket
  case h_3 => rfl

/-- An item is a value and what comes behind it. -/
theorem readItem_eq {os : List Outline} (hitem : readValue fuel cs = (o, more))
    (hitems : readItems fuel false more = (os, rest)) :
    readItem (fuel + 1) cs = (o :: os, rest) := by
  simp only [readItem, hitem, hitems]

/-- An entry is a key, a colon and a value. -/
theorem readEntry_eq {key : String} {os : List (Outline × Outline)}
    (hitem : readValue fuel cs = (o, more))
    (hentries : readEntries fuel false more = (os, rest)) :
    readEntry (fuel + 1) (writeText key ++ ':' :: cs)
      = ((.text key, o) :: os, rest) := by
  have hkey : writeText key ++ ':' :: cs
      = '"' :: (key.toList.flatMap escape ++ '"' :: ':' :: cs) := by
    simp [writeText]
  have hcolon : skipBlanks (':' :: cs) = ':' :: cs := rfl
  rw [hkey, readEntry, opening_quote.skipBlanks]
  simp only [readText_escape, hcolon, hitem, hentries]

/-- A sign or a digit starts a number. -/
theorem readValue_number (hnumber : c = '-' ∨ c.isDigit = true) :
    readValue (fuel + 1) (c :: cs) = readNumber (c :: cs) := by
  rcases hnumber with rfl | hdigit
  · rfl
  · have hskip := (opening_of_isDigit hdigit).skipBlanks cs
    rw [readValue, hskip]
    split
    case h_7 heq =>
      obtain ⟨rfl, rfl⟩ := List.cons.inj heq
      exact if_pos (.inr hdigit)
    case h_8 heq => cases heq
    -- the other cases are about characters that are no digits
    all_goals
      rename_i heq
      obtain ⟨rfl, -⟩ := List.cons.inj heq
      cases hdigit

end steps

mutual

/-- A value is read as its outline. -/
theorem readValue_write {v : Value} {fuel : Nat} {rest : List Char}
    (hfuel : 3 * (write v).length ≤ fuel) (hrest : Closed rest) :
    readValue fuel (write v ++ rest) = (v.outlineBy numeral, rest) := by
  have hpos := length_write_pos v
  obtain ⟨fuel, rfl⟩ : ∃ f, fuel = f + 1 := ⟨fuel - 1, by omega⟩
  cases v with
  | null => rfl
  | bool b => cases b <;> rfl
  | int n =>
      obtain ⟨c, cs, htext, hc⟩ := exists_text_eq_cons n
      have hnumber := readNumber_text n hrest
      rw [write]
      rw [htext] at hnumber ⊢
      rw [List.cons_append, readValue_number hc]
      exact hnumber
  | float x =>
      obtain ⟨c, cs, htext, hc⟩ := exists_float_text_eq_cons x
      have hnumber := readNumber_double x hrest
      rw [write]
      rw [htext] at hnumber ⊢
      rw [List.cons_append, readValue_number hc]
      exact hnumber
  | text s =>
      have hwrite : writeText s ++ rest
          = '"' :: (s.toList.flatMap escape ++ '"' :: rest) := by
        simp [writeText]
      rw [write, hwrite, readValue, opening_quote.skipBlanks]
      exact readText_escape s rest
  | list items =>
      have hitems : readItems fuel true (writeItems items ++ rest)
          = (Value.outlinesBy numeral items, rest) := by
        rw [write, List.length_cons] at hfuel
        exact readItems_writeItems (by omega)
      have hopen : skipBlanks ('[' :: (writeItems items ++ rest))
          = '[' :: (writeItems items ++ rest) := rfl
      rw [write, List.cons_append, readValue, hopen]
      simp only [hitems, Value.outlineBy]
  | object entries =>
      have hentries : readEntries fuel true (writeEntries entries ++ rest)
          = (Value.outlineEntriesBy numeral entries, rest) := by
        rw [write, List.length_cons] at hfuel
        exact readEntries_writeEntries (by omega)
      have hopen : skipBlanks ('{' :: (writeEntries entries ++ rest))
          = '{' :: (writeEntries entries ++ rest) := rfl
      rw [write, List.cons_append, readValue, hopen]
      simp only [hentries, Value.outlineBy]
termination_by (sizeOf v, 0)

/-- All the items of a list are read, up to its bracket. -/
theorem readItems_writeItems {items : List Value} {fuel : Nat} {rest : List Char}
    (hfuel : 3 * (writeItems items).length < fuel) :
    readItems fuel true (writeItems items ++ rest)
      = (Value.outlinesBy numeral items, rest) := by
  obtain ⟨fuel, rfl⟩ : ∃ f, fuel = f + 1 := ⟨fuel - 1, by omega⟩
  cases items with
  | nil => rfl
  | cons v items =>
      rw [writeItems, List.length_append] at hfuel
      obtain ⟨c, cs, hwrite, hc⟩ := exists_write_eq_cons v
      have hitem : readItem fuel (write v ++ (writeMoreItems items ++ rest))
          = (Value.outlinesBy numeral (v :: items), rest) := readItem_write (by omega)
      rw [writeItems, List.append_assoc]
      rw [hwrite] at hitem ⊢
      exact (readItems_first hc).trans hitem
termination_by (sizeOf items, 1)
decreasing_by
  subst_vars
  exact Prod.Lex.right _ Nat.zero_lt_one

/-- An item is read, and those behind it. -/
theorem readItem_write {v : Value} {items : List Value} {fuel : Nat}
    {rest : List Char}
    (hfuel : 3 * ((write v).length + (writeMoreItems items).length) ≤ fuel) :
    readItem fuel (write v ++ (writeMoreItems items ++ rest))
      = (Value.outlinesBy numeral (v :: items), rest) := by
  have hpos := length_write_pos v
  obtain ⟨fuel, rfl⟩ : ∃ f, fuel = f + 1 := ⟨fuel - 1, by omega⟩
  have hvalue : readValue fuel (write v ++ (writeMoreItems items ++ rest))
      = (v.outlineBy numeral, writeMoreItems items ++ rest) :=
    readValue_write (by have := length_writeMoreItems_pos items; omega)
      (closed_writeMoreItems items rest)
  have hitems : readItems fuel false (writeMoreItems items ++ rest)
      = (Value.outlinesBy numeral items, rest) :=
    readItems_writeMoreItems (by omega)
  exact readItem_eq hvalue hitems
termination_by (sizeOf (v :: items), 0)

/-- The items behind one are read, each behind its comma. -/
theorem readItems_writeMoreItems {items : List Value} {fuel : Nat} {rest : List Char}
    (hfuel : 3 * (writeMoreItems items).length ≤ fuel) :
    readItems fuel false (writeMoreItems items ++ rest)
      = (Value.outlinesBy numeral items, rest) := by
  have hpos := length_writeMoreItems_pos items
  obtain ⟨fuel, rfl⟩ : ∃ f, fuel = f + 1 := ⟨fuel - 1, by omega⟩
  cases items with
  | nil => rfl
  | cons v items =>
      rw [writeMoreItems, List.cons_append, List.length_cons,
        List.length_append] at hfuel
      obtain ⟨c, cs, hwrite, hc⟩ := exists_write_eq_cons v
      have hitem : readItem fuel (write v ++ (writeMoreItems items ++ rest))
          = (Value.outlinesBy numeral (v :: items), rest) := readItem_write (by omega)
      rw [writeMoreItems, List.append_assoc, List.cons_append]
      rw [hwrite] at hitem ⊢
      exact (readItems_next hc).trans hitem
termination_by (sizeOf items, 1)
decreasing_by
  subst_vars
  exact Prod.Lex.right _ Nat.zero_lt_one

/-- All the entries of an object are read, up to its brace. -/
theorem readEntries_writeEntries {entries : List (String × Value)} {fuel : Nat}
    {rest : List Char}
    (hfuel : 3 * (writeEntries entries).length < fuel) :
    readEntries fuel true (writeEntries entries ++ rest)
      = (Value.outlineEntriesBy numeral entries, rest) := by
  obtain ⟨fuel, rfl⟩ : ∃ f, fuel = f + 1 := ⟨fuel - 1, by omega⟩
  cases entries with
  | nil => rfl
  | cons e entries =>
      rw [writeEntries_cons] at hfuel ⊢
      simp only [List.length_append, List.length_cons] at hfuel
      rw [List.append_assoc, List.append_assoc, List.cons_append]
      -- every entry starts with a quote, so no cases on the first character
      exact readEntry_write (by omega)
termination_by (sizeOf entries, 1)
decreasing_by
  subst_vars
  exact Prod.Lex.right _ Nat.zero_lt_one

/-- An entry is read, and those behind it. -/
theorem readEntry_write {e : String × Value} {entries : List (String × Value)} {fuel : Nat}
    {rest : List Char}
    (hfuel : 3 * ((write e.2).length + (writeMoreEntries entries).length) ≤ fuel) :
    readEntry fuel (writeText e.1 ++ ':' :: (write e.2 ++ (writeMoreEntries entries ++ rest)))
      = (Value.outlineEntriesBy numeral (e :: entries), rest) := by
  have hsize := sizeOf_snd_lt e entries
  have hpos := length_write_pos e.2
  obtain ⟨fuel, rfl⟩ : ∃ f, fuel = f + 1 := ⟨fuel - 1, by omega⟩
  have hvalue : readValue fuel (write e.2 ++ (writeMoreEntries entries ++ rest))
      = (e.2.outlineBy numeral, writeMoreEntries entries ++ rest) :=
    readValue_write (by have := length_writeMoreEntries_pos entries; omega)
      (closed_writeMoreEntries entries rest)
  have hentries : readEntries fuel false (writeMoreEntries entries ++ rest)
      = (Value.outlineEntriesBy numeral entries, rest) :=
    readEntries_writeMoreEntries (by omega)
  exact readEntry_eq hvalue hentries
termination_by (sizeOf (e :: entries), 0)

/-- The entries behind one are read, each behind its comma. -/
theorem readEntries_writeMoreEntries {entries : List (String × Value)} {fuel : Nat}
    {rest : List Char}
    (hfuel : 3 * (writeMoreEntries entries).length ≤ fuel) :
    readEntries fuel false (writeMoreEntries entries ++ rest)
      = (Value.outlineEntriesBy numeral entries, rest) := by
  have hpos := length_writeMoreEntries_pos entries
  obtain ⟨fuel, rfl⟩ : ∃ f, fuel = f + 1 := ⟨fuel - 1, by omega⟩
  cases entries with
  | nil => rfl
  | cons e entries =>
      rw [writeMoreEntries_cons] at hfuel ⊢
      simp only [List.length_append, List.length_cons] at hfuel
      rw [List.append_assoc, List.append_assoc, List.cons_append, List.cons_append]
      exact readEntry_write (by omega)
termination_by (sizeOf entries, 1)
decreasing_by
  subst_vars
  exact Prod.Lex.right _ Nat.zero_lt_one

end

/-- The text of a value has the outline of the value, and nothing comes
after it. -/
theorem outline_text (v : Value) : outline (text v) = (v.outlineBy numeral, true) := by
  have hread : readValue (3 * (write v).length + 3) (write v ++ [])
      = (v.outlineBy numeral, []) := readValue_write (Nat.le_add_right ..) .nil
  rw [List.append_nil] at hread
  simp only [outline, text, String.toList_ofList, hread]
  rfl

/-- Without floating-point numbers it is the plain outline. -/
theorem outline_text_of_floatFree {v : Value} (hf : v.FloatFree) :
    outline (text v) = (v.outline, true) := by
  rw [outline_text, Value.outlineBy_eq (.inr hf)]

/-- What is read from the outline of a value is read from its text. -/
theorem decode_text {α : Type} {read : Outline → Except DecodeError α}
    {v : Value} {a : α} (hf : v.FloatFree) (h : read v.outline = .ok a) :
    decode read (text v) = .ok a := by
  unfold decode
  simp only [outline_text_of_floatFree hf, h, if_true]
  rfl

/-- What was decoded was read from the outline. -/
theorem read_of_decode {α : Type} {read : Outline → Except DecodeError α}
    {s : String} {a : α} (h : decode read s = .ok a) :
    read (outline s).1 = .ok a := by
  unfold decode at h
  generalize outline s = parts at h ⊢
  obtain ⟨v, hv, h⟩ := Result.bind_eq_ok.mp h
  split at h
  case isTrue =>
    obtain rfl := Except.ok.inj h
    exact hv
  case isFalse => cases h

end DeviceTwin.Json
