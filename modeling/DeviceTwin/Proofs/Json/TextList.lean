/-
Which JSON texts are lists of texts.

The grammar is that of JSON, cut down to lists of texts (`TextList`), and no
reader occurs in it. A character of a text is written as itself, as a letter
behind a backslash or as the code of one or two UTF-16 units, blanks stand
around brackets and items, and commas between the items and nowhere else.

Reading a text gives a list of texts if and only if the text follows the
grammar (`outline_eq_texts_iff`). In one direction the induction is on the fuel,
where whatever is read as texts leaves a derivation behind; in the other it is
on the derivation. Units are read one by one before pairs of them are joined, so
texts between quotes are compared by way of their pieces (`Pieces`).
-/
import DeviceTwin.Proofs.Json.Value
import Mathlib.Data.List.TakeWhile
import Mathlib.Tactic.IntervalCases

namespace DeviceTwin.Json

-- =================================================================== grammar

/-- A hexadecimal digit of either case and its value. -/
def HexDigit (c : Char) (n : Nat) : Prop :=
  n < 16 ∧ (c = Nat.digitChar n ∨ c = (Nat.digitChar n).toUpper)

/-- The code of a UTF-16 unit. -/
inductive Code : List Char → Nat → Prop
  | digits {a b c d : Char} {w x y z : Nat} (first : HexDigit a w) (second : HexDigit b x)
      (third : HexDigit c y) (fourth : HexDigit d z) :
      Code ['\\', 'u', a, b, c, d] (((w * 16 + x) * 16 + y) * 16 + z)

/-- The letters of escapes, and the characters that they stand for. -/
def escapes : List (Char × Char) :=
  [('"', '"'), ('\\', '\\'), ('/', '/'), ('b', '\x08'), ('f', '\x0c'), ('n', '\n'), ('r', '\r'),
   ('t', '\t')]

/-- How a character may be written in a text. -/
inductive Written : List Char → Char → Prop
  | plain {c : Char} (quote : c ≠ '"') (backslash : c ≠ '\\') (control : 0x20 ≤ c.toNat) :
      Written [c] c
  | letter {e c : Char} (escape : (e, c) ∈ escapes) : Written ['\\', e] c
  | unit {cs : List Char} {c : Char} (code : Code cs c.toNat) : Written cs c
  | pair {cs cs' : List Char} {c : Char} {n m : Nat} (high : Code cs (0xD800 + n))
      (low : Code cs' (0xDC00 + m)) (highBits : n < 0x400) (lowBits : m < 0x400)
      (joined : c.toNat = 0x10000 + n * 0x400 + m) : Written (cs ++ cs') c

/-- How characters may be written between the quotes of a text. -/
inductive Body : List Char → List Char → Prop
  | nil : Body [] []
  | cons {cs cs' chars : List Char} {c : Char} (first : Written cs c) (more : Body cs' chars) :
      Body (cs ++ cs') (c :: chars)

/-- Nothing but the blanks of JSON. -/
def Blank (cs : List Char) : Prop := ∀ c ∈ cs, c ∈ [' ', '\n', '\t', '\r']

/-- A text between quotes, and blanks around it. -/
inductive Item : List Char → String → Prop
  | mk {before body after : List Char} {s : String} (front : Blank before)
      (text : Body body s.toList) (back : Blank after) :
      Item (before ++ '"' :: (body ++ '"' :: after)) s

/-- Texts with commas between them. -/
inductive Items : List Char → List String → Prop
  | last {cs : List Char} {s : String} (item : Item cs s) : Items cs [s]
  | more {cs cs' : List Char} {s : String} {texts : List String} (item : Item cs s)
      (items : Items cs' texts) : Items (cs ++ ',' :: cs') (s :: texts)

/-- A list of texts between brackets, and blanks around it. -/
inductive TextList : List Char → List String → Prop
  | empty {before inside after : List Char} (front : Blank before) (middle : Blank inside)
      (back : Blank after) : TextList (before ++ '[' :: (inside ++ ']' :: after)) []
  | items {before inside after : List Char} {texts : List String} (front : Blank before)
      (items : Items inside texts) (back : Blank after) :
      TextList (before ++ '[' :: (inside ++ ']' :: after)) texts

-- ===================================================================== digits

section leaves

variable {a b c d : Char} {n : Nat}

/-- The digits that are read are those of the grammar, with their values. -/
theorem hexValue?_eq_some : hexValue? c = some n ↔ HexDigit c n := by
  constructor
  · intro h
    have hchar := Char.ofNat_toNat c
    simp only [hexValue?, Char.le_def, UInt32.le_iff_toNat_le] at h
    change (if 48 ≤ c.toNat ∧ c.toNat ≤ 57 then some (c.toNat - 48)
      else if 97 ≤ c.toNat ∧ c.toNat ≤ 102 then some (c.toNat - 97 + 10)
      else if 65 ≤ c.toNat ∧ c.toNat ≤ 70 then some (c.toNat - 65 + 10) else none) = some n at h
    generalize c.toNat = k at h hchar
    subst hchar
    split at h
    case isTrue hdigit =>
      obtain ⟨hlow, hhigh⟩ := hdigit
      cases h
      interval_cases k <;> exact ⟨by decide, .inl rfl⟩
    case isFalse =>
      split at h
      case isTrue hlower =>
        obtain ⟨hlow, hhigh⟩ := hlower
        cases h
        interval_cases k <;> exact ⟨by decide, .inl rfl⟩
      case isFalse =>
        split at h
        case isTrue hupper =>
          obtain ⟨hlow, hhigh⟩ := hupper
          cases h
          interval_cases k <;> exact ⟨by decide, .inr rfl⟩
        case isFalse => cases h
  · intro h
    obtain ⟨hn, rfl | rfl⟩ := h
    · interval_cases n <;> rfl
    · interval_cases n <;> rfl

/-- The four digits behind a `\u` are read as their unit. -/
theorem hexUnit?_eq_some : hexUnit? a b c d = some n ↔ Code ['\\', 'u', a, b, c, d] n := by
  constructor
  · intro h
    simp only [hexUnit?, Option.bind_eq_bind, Option.bind_eq_some_iff, Option.pure_def,
      Option.some.injEq, hexValue?_eq_some] at h
    obtain ⟨w, hw, x, hx, y, hy, z, hz, rfl⟩ := h
    exact .digits hw hx hy hz
  · intro h
    cases h with
    | digits hw hx hy hz =>
        simp only [hexUnit?, hexValue?_eq_some.mpr hw, hexValue?_eq_some.mpr hx,
          hexValue?_eq_some.mpr hy, hexValue?_eq_some.mpr hz]
        rfl

/-- A unit has 16 bits. -/
theorem Code.lt {cs : List Char} (h : Code cs n) : n < 0x10000 := by
  cases h with
  | digits hw hx hy hz =>
      have := hw.1
      have := hx.1
      have := hy.1
      have := hz.1
      omega

/-- The escapes that are read are those of the table. -/
theorem unescape?_eq_some {e : Char} : unescape? e = some c ↔ (e, c) ∈ escapes := by
  constructor
  · intro h
    unfold unescape? at h
    split at h
    case h_9 => cases h
    all_goals
      obtain rfl := Option.some.inj h
      decide
  · intro h
    simp only [escapes, List.mem_cons, Prod.mk.injEq, List.not_mem_nil, or_false] at h
    rcases h with ⟨rfl, rfl⟩ | ⟨rfl, rfl⟩ | ⟨rfl, rfl⟩ | ⟨rfl, rfl⟩ | ⟨rfl, rfl⟩ | ⟨rfl, rfl⟩
      | ⟨rfl, rfl⟩ | ⟨rfl, rfl⟩ <;> rfl

end leaves

-- ===================================================================== pieces

/-- How a piece of a text may be written. -/
inductive PieceWritten : List Char → Piece → Prop
  | plain {c : Char} (quote : c ≠ '"') (backslash : c ≠ '\\') (control : 0x20 ≤ c.toNat) :
      PieceWritten [c] (.char c)
  | letter {e c : Char} (escape : (e, c) ∈ escapes) : PieceWritten ['\\', e] (.char c)
  | unit {cs : List Char} {n : Nat} (code : Code cs n) : PieceWritten cs (.unit n)

/-- How pieces may be written between the quotes of a text. -/
inductive Pieces : List Char → List Piece → Prop
  | nil : Pieces [] []
  | cons {cs cs' : List Char} {p : Piece} {pieces : List Piece} (first : PieceWritten cs p)
      (more : Pieces cs' pieces) : Pieces (cs ++ cs') (p :: pieces)

section pieces

variable {cs rest body chars : List Char} {p : Piece} {pieces : List Piece}

/-- A piece is read from what it may be written as. -/
theorem readPieces_written (h : PieceWritten cs p) (more : List Char) :
    readPieces (cs ++ more) = withPiece p (readPieces more) := by
  cases h with
  | plain quote backslash control =>
      exact readPieces_plain more quote backslash (Nat.not_lt.mpr control)
  | letter escape =>
      have hletter : ∀ e ∈ escapes, e.1 ≠ 'u' := by decide
      exact readPieces_letter more (unescape?_eq_some.mpr escape) (hletter _ escape)
  | unit code =>
      cases code with
      | digits first second third fourth =>
          exact readPieces_code more (hexUnit?_eq_some.mpr (.digits first second third fourth))

/-- What is written in pieces is read in these pieces, up to the closing quote. -/
theorem readPieces_of_pieces (h : Pieces body pieces) (rest : List Char) :
    readPieces (body ++ '"' :: rest) = some (pieces, rest) := by
  induction h with
  | nil => rfl
  | cons first more ih =>
      rw [List.append_assoc, readPieces_written first, ih]
      rfl

/-- What is read as pieces may be written so, up to the first quote. -/
theorem pieces_of_readPieces (h : readPieces cs = some (pieces, rest)) :
    ∃ body, cs = body ++ '"' :: rest ∧ Pieces body pieces := by
  -- the piece in front, if those behind it are written as they should
  have hcons : ∀ {front more : List Char} {p : Piece} {pieces : List Piece},
      PieceWritten front p → (∃ body, more = body ++ '"' :: rest ∧ Pieces body pieces) →
        ∃ body, front ++ more = body ++ '"' :: rest ∧ Pieces body (p :: pieces) := by
    intro front more p pieces hfirst hbehind
    obtain ⟨body, rfl, hmore⟩ := hbehind
    exact ⟨front ++ body, (List.append_assoc ..).symm, .cons hfirst hmore⟩
  fun_induction readPieces cs generalizing pieces with
  | case1 => cases h
  | case2 =>
      obtain ⟨rfl, rfl⟩ := Prod.mk.inj (Option.some.inj h)
      exact ⟨[], rfl, .nil⟩
  | case3 a b c d more n behind rest' hread hcode ih =>
      obtain ⟨rfl, rfl⟩ := Prod.mk.inj (Option.some.inj h)
      exact hcons (.unit (hexUnit?_eq_some.mp hcode)) (ih hread)
  | case5 e more _ c behind rest' hread hescape ih =>
      obtain ⟨rfl, rfl⟩ := Prod.mk.inj (Option.some.inj h)
      exact hcons (.letter (unescape?_eq_some.mp hescape)) (ih hread)
  | case8 c more hquote _ hletter hcontrol behind rest' hread ih =>
      obtain ⟨rfl, rfl⟩ := Prod.mk.inj (Option.some.inj h)
      have hbackslash : c ≠ '\\' := by
        intro hc
        cases more with
        | nil => cases hread
        | cons e more => exact hletter e more hc rfl
      exact hcons (.plain hquote hbackslash (Nat.not_lt.mp hcontrol)) (ih hread)
  | case4 | case6 | case7 | case9 => cases h

-- ================================================================= characters

/-- A number that is a character's is the number of that character. -/
theorem toNat_ofNat_of_isValidChar {n : Nat} (h : n.isValidChar) : (Char.ofNat n).toNat = n := by
  rw [Char.ofNat, dif_pos h]
  rfl

/-- No character is half of a surrogate pair. -/
theorem not_surrogate (c : Char) : ¬ (0xD800 ≤ c.toNat ∧ c.toNat < 0xE000) := by
  have hvalid : c.toNat.isValidChar := c.valid
  unfold Nat.isValidChar at hvalid
  omega

/-- Pieces that are joined are characters. -/
theorem body_of_pieces (h : Pieces body pieces) (hjoin : joinPieces pieces = some chars) :
    Body body chars := by
  fun_induction joinPieces pieces generalizing body chars with
  | case1 =>
      obtain rfl := Option.some.inj hjoin
      cases h
      exact .nil
  | case2 c pieces ih =>
      obtain ⟨behind, hbehind, rfl⟩ := Option.map_eq_some_iff.mp hjoin
      cases h with
      | cons first more =>
          cases first with
          | plain quote backslash control =>
              exact .cons (.plain quote backslash control) (ih more hbehind)
          | letter escape => exact .cons (.letter escape) (ih more hbehind)
  | case3 n hhigh m pieces hlow ih =>
      obtain ⟨behind, hbehind, rfl⟩ := Option.map_eq_some_iff.mp hjoin
      cases h with
      | cons first more =>
          cases more with
          | cons second more =>
              cases first with
              | unit high =>
                  cases second with
                  | unit low =>
                      obtain ⟨x, rfl⟩ := Nat.exists_eq_add_of_le hhigh.1
                      obtain ⟨y, rfl⟩ := Nat.exists_eq_add_of_le hlow.1
                      rw [← List.append_assoc]
                      refine .cons (.pair high low (by omega) (by omega) ?_) (ih more hbehind)
                      rw [toNat_ofNat_of_isValidChar (.inr (by omega))]
                      omega
  | case7 n hhigh hlow pieces ih =>
      obtain ⟨behind, hbehind, rfl⟩ := Option.map_eq_some_iff.mp hjoin
      cases h with
      | cons first more =>
          cases first with
          | unit code =>
              have hlt := code.lt
              have hvalid : n.isValidChar := by
                unfold Nat.isValidChar
                omega
              refine .cons (.unit ?_) (ih more hbehind)
              rwa [toNat_ofNat_of_isValidChar hvalid]
  | case4 | case5 | case6 => cases hjoin

/-- Characters are joined from pieces. -/
theorem pieces_of_body (h : Body body chars) :
    ∃ pieces, Pieces body pieces ∧ joinPieces pieces = some chars := by
  induction h with
  | nil => exact ⟨[], .nil, rfl⟩
  | @cons cs cs' chars c first more ih =>
      obtain ⟨pieces, hpieces, hjoin⟩ := ih
      have hchar := not_surrogate c
      cases first with
      | plain quote backslash control =>
          refine ⟨_, .cons (.plain quote backslash control) hpieces, ?_⟩
          rw [joinPieces, hjoin]
          rfl
      | letter escape =>
          refine ⟨_, .cons (.letter escape) hpieces, ?_⟩
          rw [joinPieces, hjoin]
          rfl
      | unit code =>
          refine ⟨_, .cons (.unit code) hpieces, ?_⟩
          rw [joinPieces.eq_def]
          simp only [if_neg (show ¬ (0xD800 ≤ c.toNat ∧ c.toNat < 0xDC00) by omega),
            if_neg (show ¬ (0xDC00 ≤ c.toNat ∧ c.toNat < 0xE000) by omega), hjoin,
            Option.map_some, Char.ofNat_toNat]
      | @pair cs cs' _ n m high low highBits lowBits joined =>
          rw [List.append_assoc]
          refine ⟨_, .cons (.unit high) (.cons (.unit low) hpieces), ?_⟩
          have hjoined : Char.ofNat (0x10000 + (0xD800 + n - 0xD800) * 0x400
              + (0xDC00 + m - 0xDC00)) = c := by
            rw [Nat.add_sub_cancel_left, Nat.add_sub_cancel_left, ← joined, Char.ofNat_toNat]
          rw [joinPieces.eq_def]
          simp only [if_pos (show 0xD800 ≤ 0xD800 + n ∧ 0xD800 + n < 0xDC00 by omega),
            if_pos (show 0xDC00 ≤ 0xDC00 + m ∧ 0xDC00 + m < 0xE000 by omega), hjoin,
            Option.map_some, hjoined]

/-- A text is read up to its closing quote. -/
theorem readText_eq_text {s : String} :
    readText cs = (.text s, rest) ↔ ∃ body, cs = body ++ '"' :: rest ∧ Body body s.toList := by
  constructor
  · intro h
    unfold readText at h
    split at h
    · cases h
    case h_2 pieces rest' hread =>
      split at h
      case h_1 chars hjoin =>
        obtain ⟨htext, rfl⟩ := Prod.mk.inj h
        obtain ⟨body, hcs, hpieces⟩ := pieces_of_readPieces hread
        refine ⟨body, hcs, body_of_pieces hpieces ?_⟩
        rw [hjoin, ← Outline.text.inj htext, String.toList_ofList]
      case h_2 => cases h
  · intro h
    obtain ⟨body, rfl, hbody⟩ := h
    obtain ⟨pieces, hpieces, hjoin⟩ := pieces_of_body hbody
    simp only [readText, readPieces_of_pieces hpieces, hjoin, String.ofList_toList]

end pieces

-- =================================================================== blanks

section blanks

variable {cs before : List Char} {c : Char}

/-- JSON has four blanks. -/
theorem isBlank_iff : isBlank c = true ↔ c ∈ [' ', '\n', '\t', '\r'] := by
  simp [isBlank, or_assoc]

/-- What is passed over is blank. -/
theorem exists_skipBlanks (cs : List Char) : ∃ before, Blank before ∧ cs = before ++ skipBlanks cs :=
  ⟨cs.takeWhile isBlank, fun _ hc => isBlank_iff.mp (List.mem_takeWhile_imp hc),
    List.takeWhile_append_dropWhile.symm⟩

/-- Blanks in front make no difference. -/
theorem skipBlanks_append (h : Blank before) (cs : List Char) :
    skipBlanks (before ++ cs) = skipBlanks cs :=
  List.dropWhile_append_of_pos fun _ hc => isBlank_iff.mpr (h _ hc)

/-- Blanks are passed over up to a mark. -/
theorem skipBlanks_mark (h : Blank before) (hc : isBlank c = false) (cs : List Char) :
    skipBlanks (before ++ c :: cs) = c :: cs := by
  rw [skipBlanks_append h, skipBlanks, List.dropWhile_cons, hc]
  rfl

/-- Nothing is left if and only if all was blank. -/
theorem skipBlanks_eq_nil : skipBlanks cs = [] ↔ Blank cs := by
  rw [skipBlanks, List.dropWhile_eq_nil_iff]
  simp only [isBlank_iff, Blank]

/-- Blanks behind blanks are blank. -/
theorem Blank.append {after : List Char} (h : Blank before) (hafter : Blank after) :
    Blank (before ++ after) := fun c hc => (List.mem_append.mp hc).elim (h c) (hafter c)

/-- An item may have more blanks in front. -/
theorem Item.blank_append {s : String} (h : Blank before) (hitem : Item cs s) :
    Item (before ++ cs) s := by
  cases hitem with
  | mk front text back =>
      rw [← List.append_assoc]
      exact .mk (h.append front) text back

/-- And so may a list of items. -/
theorem Items.blank_append {texts : List String} (h : Blank before) (hitems : Items cs texts) :
    Items (before ++ cs) texts := by
  cases hitems with
  | last item => exact .last (item.blank_append h)
  | more item items =>
      rw [← List.append_assoc]
      exact .more (item.blank_append h) items

end blanks

-- =================================================================== values

/-- What is no text, no bytes and no list. -/
def Other : Outline → Prop
  | .text _ | .bytes _ | .list _ => False
  | .null | .bool _ | .int _ | .float _ | .notFinite | .object _ | .unfit | .broken => True

/-- What begins as a number is read as one or not at all. -/
theorem other_readNumber (cs : List Char) : Other (readNumber cs).1 := by
  unfold readNumber
  dsimp only
  split
  · trivial
  · split <;> trivial

/-- A word is read as what it stands for or not at all. -/
theorem other_readWord {o : Outline} (ho : Other o) (word cs : List Char) :
    Other (readWord word o cs).1 := by
  unfold readWord
  split
  · exact ho
  · trivial

section values

variable {fuel : Nat} {cs rest : List Char} {s : String} {items : List Outline}

/-- What is read is a text behind a quote, a list behind its bracket, or neither. -/
theorem readValue_cases (fuel : Nat) (cs : List Char) :
    (∃ more, skipBlanks cs = '"' :: more ∧ readValue (fuel + 1) cs = readText more)
    ∨ (∃ more, skipBlanks cs = '[' :: more ∧ readValue (fuel + 1) cs
        = (.list (readItems fuel true more).1, (readItems fuel true more).2))
    ∨ Other (readValue (fuel + 1) cs).1 := by
  rw [readValue]
  split
  case h_1 more hcs => exact .inl ⟨more, hcs, rfl⟩
  case h_2 more hcs => exact .inr (.inl ⟨more, hcs, rfl⟩)
  case h_3 => exact .inr (.inr trivial)
  case h_4 => exact .inr (.inr (other_readWord (o := .null) trivial _ _))
  case h_5 => exact .inr (.inr (other_readWord (o := .bool true) trivial _ _))
  case h_6 => exact .inr (.inr (other_readWord (o := .bool false) trivial _ _))
  case h_7 =>
    split
    · exact .inr (.inr (other_readNumber _))
    · exact .inr (.inr trivial)
  case h_8 => exact .inr (.inr trivial)

/-- What begins as a text is not read as a list. -/
theorem list_ne_of_readText {o : Outline} (h : readText cs = (o, rest)) : o ≠ .list items := by
  rintro rfl
  unfold readText at h
  split at h
  · cases h
  · split at h <;> cases h

/-- What is read as a text may be written so. -/
theorem text_of_readValue (h : readValue fuel cs = (.text s, rest)) :
    ∃ before body, Blank before ∧ Body body s.toList
      ∧ cs = before ++ '"' :: (body ++ '"' :: rest) := by
  cases fuel with
  | zero => cases h
  | succ fuel =>
      rcases readValue_cases fuel cs with ⟨more, hcs, hread⟩ | ⟨more, -, hread⟩ | hother
      · obtain ⟨body, rfl, hbody⟩ := readText_eq_text.mp (hread.symm.trans h)
        obtain ⟨before, hbefore, hwhole⟩ := exists_skipBlanks cs
        rw [hcs] at hwhole
        exact ⟨before, body, hbefore, hbody, hwhole⟩
      · cases hread.symm.trans h
      · rw [h] at hother
        exact hother.elim

/-- A text is read from what it may be written as. -/
theorem readValue_text {before body : List Char} (hbefore : Blank before)
    (hbody : Body body s.toList) :
    readValue (fuel + 1) (before ++ '"' :: (body ++ '"' :: rest)) = (.text s, rest) := by
  rw [readValue, skipBlanks_mark hbefore rfl]
  exact readText_eq_text.mpr ⟨body, rfl, hbody⟩

/-- A list is read if and only if its items are, behind a bracket. -/
theorem readValue_eq_list :
    readValue (fuel + 1) cs = (.list items, rest)
      ↔ ∃ before more, Blank before ∧ cs = before ++ '[' :: more
        ∧ readItems fuel true more = (items, rest) := by
  constructor
  · intro h
    rcases readValue_cases fuel cs with ⟨more, -, hread⟩ | ⟨more, hcs, hread⟩ | hother
    · exact absurd rfl (list_ne_of_readText (hread.symm.trans h))
    · obtain ⟨hitems, hrest⟩ := Prod.mk.inj (hread.symm.trans h)
      obtain ⟨before, hbefore, hwhole⟩ := exists_skipBlanks cs
      rw [hcs] at hwhole
      exact ⟨before, more, hbefore, hwhole, Prod.ext (Outline.list.inj hitems) hrest⟩
    · rw [h] at hother
      exact hother.elim
  · intro h
    obtain ⟨before, more, hbefore, rfl, hitems⟩ := h
    rw [readValue, skipBlanks_mark hbefore rfl]
    simp only [hitems]

end values

-- ==================================================================== lists

section lists

variable {cs rest : List Char} {s : String} {texts : List String}

/-- A list that is broken off is no list of texts. -/
theorem broken_ne_texts (texts : List String) : [Outline.broken] ≠ texts.map .text := by
  intro h
  obtain ⟨s, -, hs⟩ := List.mem_map.mp (h ▸ List.mem_singleton_self Outline.broken)
  cases hs

/-- The texts that are read up to the closing bracket, and those that are read
behind the first one, are written by the grammar. The induction is on the fuel,
for both at once. -/
theorem items_of_read (fuel : Nat) :
    (∀ cs rest texts, readItem fuel cs = (texts.map .text, rest) →
      ∃ inside, cs = inside ++ ']' :: rest ∧ Items inside texts)
    ∧ ∀ cs rest texts, readItems fuel false cs = (texts.map .text, rest) →
      ∃ before, Blank before ∧
        (texts = [] ∧ cs = before ++ ']' :: rest
          ∨ ∃ inside, cs = before ++ ',' :: (inside ++ ']' :: rest) ∧ Items inside texts) := by
  induction fuel with
  | zero =>
      constructor
      · intro cs rest texts h
        exact absurd (congrArg Prod.fst h) (broken_ne_texts texts)
      · intro cs rest texts h
        exact absurd (congrArg Prod.fst h) (broken_ne_texts texts)
  | succ fuel ih =>
      obtain ⟨hitem, hitems⟩ := ih
      constructor
      · intro cs rest texts h
        rw [readItem] at h
        cases hvalue : readValue fuel cs with
        | mk item more =>
            rw [hvalue] at h
            obtain ⟨hlist, hrest⟩ := Prod.mk.inj h
            cases texts with
            | nil => cases hlist
            | cons s texts =>
                obtain ⟨rfl, hlater⟩ := List.cons.inj hlist
                obtain ⟨before, body, hbefore, hbody, rfl⟩ := text_of_readValue hvalue
                obtain ⟨after, hafter, ⟨rfl, rfl⟩ | ⟨inside, rfl, hinside⟩⟩ :=
                  hitems more rest texts (Prod.ext hlater hrest)
                · exact ⟨_, by simp, .last (.mk hbefore hbody hafter)⟩
                · exact ⟨_, by simp, .more (.mk hbefore hbody hafter) hinside⟩
      · intro cs rest texts h
        obtain ⟨before, hbefore, hcs⟩ := exists_skipBlanks cs
        refine ⟨before, hbefore, ?_⟩
        rw [readItems] at h
        split at h
        case h_1 more hmark =>
          obtain ⟨htexts, rfl⟩ := Prod.mk.inj h
          rw [hmark] at hcs
          exact .inl ⟨List.map_eq_nil_iff.mp htexts.symm, hcs⟩
        case h_2 more hmark =>
          split at h
          case h_1 hfirst => cases hfirst
          case h_2 => exact absurd (congrArg Prod.fst h) (broken_ne_texts texts)
          case h_3 =>
            obtain ⟨inside, hinside, hspelled⟩ := hitem _ rest texts h
            obtain ⟨front, hfront, hmore⟩ := exists_skipBlanks more
            rw [hmark, hmore, hinside] at hcs
            refine .inr ⟨front ++ inside, ?_, hspelled.blank_append hfront⟩
            rw [hcs, List.append_assoc]
        case h_3 => exact absurd (congrArg Prod.fst h) (broken_ne_texts texts)

/-- All the texts that are read up to the closing bracket are written by the
grammar, or there are none. -/
theorem texts_of_readItems {fuel : Nat}
    (h : readItems fuel true cs = (texts.map .text, rest)) :
    (∃ inside, Blank inside ∧ texts = [] ∧ cs = inside ++ ']' :: rest)
    ∨ ∃ inside, cs = inside ++ ']' :: rest ∧ Items inside texts := by
  cases fuel with
  | zero => exact absurd (congrArg Prod.fst h) (broken_ne_texts texts)
  | succ fuel =>
      obtain ⟨before, hbefore, hcs⟩ := exists_skipBlanks cs
      rw [readItems] at h
      split at h
      case h_1 more hmark =>
        obtain ⟨htexts, rfl⟩ := Prod.mk.inj h
        rw [hmark] at hcs
        exact .inl ⟨before, hbefore, List.map_eq_nil_iff.mp htexts.symm, hcs⟩
      case h_2 => exact absurd (congrArg Prod.fst h) (broken_ne_texts texts)
      case h_3 =>
        obtain ⟨inside, hinside, hspelled⟩ := (items_of_read fuel).1 _ rest texts h
        rw [hinside, ← List.append_assoc] at hcs
        exact .inr ⟨_, hcs, hspelled.blank_append hbefore⟩

/-- An item starts with a quote behind its blanks. -/
theorem Items.skipBlanks (h : Items cs texts) (more : List Char) :
    ∃ behind, skipBlanks (cs ++ more) = '"' :: behind := by
  cases h with
  | last item =>
      cases item with
      | mk front text back =>
          rw [List.append_assoc]
          exact ⟨_, skipBlanks_mark front rfl _⟩
  | more item items =>
      cases item with
      | mk front text back =>
          rw [List.append_assoc, List.append_assoc]
          exact ⟨_, skipBlanks_mark front rfl _⟩

/-- Blanks in front of an item make no difference. -/
theorem readItem_skipBlanks (fuel : Nat) (cs : List Char) :
    readItem fuel (Json.skipBlanks cs) = readItem fuel cs := by
  obtain ⟨before, hbefore, hcs⟩ := exists_skipBlanks cs
  have hskip : Json.skipBlanks (Json.skipBlanks cs) = Json.skipBlanks cs := by
    rw [← skipBlanks_append hbefore, ← hcs]
  cases fuel with
  | zero => rfl
  | succ fuel =>
      cases fuel with
      | zero => rfl
      | succ fuel => rw [readItem, readItem, readValue, readValue, hskip]

section steps

variable {fuel : Nat} {os : List Outline} {before more behind : List Char}

/-- A text is read, and what comes behind its blanks. -/
theorem readItem_item (hitem : Item cs s)
    (hmore : ∀ after, Blank after → readItems (fuel + 1) false (after ++ more) = (os, rest)) :
    readItem (fuel + 2) (cs ++ more) = (.text s :: os, rest) := by
  cases hitem with
  | @mk before body after _ front text back =>
      have hvalue : readValue (fuel + 1) (before ++ '"' :: (body ++ '"' :: (after ++ more)))
          = (.text s, after ++ more) := readValue_text front text
      have hread := readItem_eq hvalue (hmore after back)
      simpa using hread

/-- A bracket ends the list. -/
theorem readItems_bracket (h : Blank before) (first : Bool) :
    readItems (fuel + 1) first (before ++ ']' :: rest) = ([], rest) := by
  rw [readItems, skipBlanks_mark h rfl]
  rfl

/-- A comma is followed by an item. -/
theorem readItems_comma (h : Blank before) (hmore : Json.skipBlanks more = '"' :: behind) :
    readItems (fuel + 1) false (before ++ ',' :: more) = readItem fuel more := by
  rw [← readItem_skipBlanks, hmore, readItems, skipBlanks_mark h rfl]
  simp only [hmore]
  rfl

/-- The first item needs no comma. -/
theorem readItems_quote (hmore : Json.skipBlanks more = '"' :: behind) :
    readItems (fuel + 1) true more = readItem fuel more := by
  rw [← readItem_skipBlanks, readItems, hmore]
  rfl

end steps

/-- Items are read as the texts that they stand for, each at the cost of two calls. -/
theorem readItem_items (h : Items cs texts) {fuel : Nat} (hfuel : 2 * texts.length ≤ fuel)
    (rest : List Char) : readItem fuel (cs ++ ']' :: rest) = (texts.map .text, rest) := by
  induction h generalizing fuel with
  | last item =>
      obtain ⟨fuel, rfl⟩ := Nat.exists_eq_add_of_le' hfuel
      exact readItem_item item fun after hafter => readItems_bracket hafter false
  | @more cs cs' s texts item items ih =>
      rw [List.length_cons] at hfuel
      obtain ⟨fuel, rfl⟩ : ∃ f, fuel = f + 2 := ⟨fuel - 2, by omega⟩
      obtain ⟨behind, hbehind⟩ := items.skipBlanks (']' :: rest)
      rw [List.append_assoc]
      refine readItem_item item fun after hafter => ?_
      exact (readItems_comma hafter hbehind).trans (ih (by omega))

/-- An item has characters, if only its quotes. -/
theorem Item.length_pos (h : Item cs s) : 0 < cs.length := by
  cases h
  simp

/-- There are no more items than characters. -/
theorem Items.length_le (h : Items cs texts) : texts.length ≤ cs.length := by
  induction h with
  | last item => exact item.length_pos
  | more item items ih =>
      have := item.length_pos
      simp only [List.length_cons, List.length_append]
      omega

/-- A text is read as a list of texts, and as nothing else, if and only if it is
one by the grammar. -/
theorem outline_eq_texts_iff (raw : String) (texts : List String) :
    outline raw = (.list (texts.map .text), true) ↔ TextList raw.toList texts := by
  have houtline : outline raw = (.list (texts.map .text), true)
      ↔ ∃ rest, Blank rest
        ∧ readValue (3 * raw.toList.length + 3) raw.toList = (.list (texts.map .text), rest) := by
    simp [outline, Prod.ext_iff, List.isEmpty_iff, skipBlanks_eq_nil, and_comm]
  rw [houtline]
  constructor
  · intro h
    obtain ⟨after, hafter, hread⟩ := h
    obtain ⟨before, more, hbefore, hraw, hitems⟩ := readValue_eq_list.mp hread
    rw [hraw]
    rcases texts_of_readItems hitems with ⟨inside, hinside, rfl, rfl⟩ | ⟨inside, rfl, hinside⟩
    · exact .empty hbefore hinside hafter
    · exact .items hbefore hinside hafter
  · generalize raw.toList = cs
    intro h
    cases h with
    | @empty before inside after front middle back =>
        exact ⟨after, back, readValue_eq_list.mpr
          ⟨before, _, front, rfl, readItems_bracket middle true⟩⟩
    | @items before inside after _ front items back =>
        have hlength := items.length_le
        obtain ⟨behind, hbehind⟩ := items.skipBlanks (']' :: after)
        refine ⟨after, back, readValue_eq_list.mpr ⟨before, _, front, rfl, ?_⟩⟩
        refine (readItems_quote hbehind).trans (readItem_items items ?_ after)
        simp only [List.length_append, List.length_cons]
        omega

end lists

end DeviceTwin.Json
