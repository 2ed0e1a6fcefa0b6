/-
A protocol command can be read from its text.

The reader cuts where the writer put marks: at the first question mark, then
between pairs, then between key and value, and what is left is decoded as in
forms. It fails where a pair has not exactly two parts and where bytes spell
no text, so what it reads has no other reading.

That this gives back what was written (`commands_are_read_back`) rests on two
facts. Bytes come back one by one (`decodeBytes_encodeByte`), whatever comes
after them. And what stands for a byte is never a mark
(`written_of_mem_encodeByte`), so marks inside of keys and values cannot be
taken for marks between them.
-/
import DeviceTwin.Json.Reader
import DeviceTwin.ProtocolCommand
import DeviceTwin.Proofs.Address
import DeviceTwin.Proofs.MsgPack

namespace DeviceTwin

namespace Text

/-- A text without the mark is not cut. -/
theorem cutAt?_of_not_mem {sep : Char} {cs : List Char} (h : sep ∉ cs) : cutAt? sep cs = none := by
  induction cs with
  | nil => rfl
  | cons c cs ih =>
      rw [List.mem_cons, not_or] at h
      rw [cutAt?, if_neg (Ne.symm h.1), ih h.2]
      rfl

/-- Joining brings in no character but the mark. -/
theorem mem_joinWith {sep c : Char} {pieces : List (List Char)} (h : c ∈ joinWith sep pieces) :
    c = sep ∨ ∃ piece ∈ pieces, c ∈ piece := by
  cases pieces with
  | nil => cases h
  | cons piece pieces =>
      rw [joinWith_cons] at h
      rcases List.mem_append.mp h with hfirst | hlater
      · exact .inr ⟨piece, List.mem_cons_self, hfirst⟩
      · obtain ⟨next, hnext, hc⟩ := List.mem_flatMap.mp hlater
        rcases List.mem_cons.mp hc with hmark | hc
        · exact .inl hmark
        · exact .inr ⟨next, List.mem_cons_of_mem _ hnext, hc⟩

end Text

namespace ProtocolCommand

-- ==================================================================== reading

/-- The byte that two hexadecimal digits name. -/
def byteOfDigits? (high low : Char) : Option UInt8 := do
  let high ← Json.hexValue? high
  let low ← Json.hexValue? low
  return UInt8.ofNat (16 * high + low)

/-- The bytes that a key or value stands for. A plus is a space, a percent sign
with two hexadecimal digits behind it is the byte that they name, and every other
character is itself. -/
def decodeBytes : List Char → List UInt8
  | [] => []
  | '+' :: rest => 0x20 :: decodeBytes rest
  | '%' :: high :: low :: rest =>
      match byteOfDigits? high low with
      | some b => b :: decodeBytes rest
      | none => 0x25 :: decodeBytes (high :: low :: rest)
  | c :: rest => String.utf8EncodeChar c ++ decodeBytes rest

/-- A key or value, if its bytes spell one. -/
def decodeText? (cs : List Char) : Option String := Outline.textOfBytes? (decodeBytes cs)

/-- A pair of key and value. -/
def decodePair? (cs : List Char) : Option (String × String) :=
  match Text.splitAt '=' cs with
  | [key, value] => do return (← decodeText? key, ← decodeText? value)
  | _ => none

/-- All pairs in order. -/
def decodeParams? (cs : List Char) : Option (List (String × String)) :=
  (Text.splitAt '&' cs).mapM decodePair?

/-- The command in a text, with its parameters. -/
def read? (s : String) : Option (String × List (String × String)) :=
  match Text.cutAt? '?' s.toList with
  | none => some (s, [])
  | some (command, query) => (decodeParams? query).map (String.ofList command, ·)

-- ====================================================================== bytes

section bytes

variable {b : UInt8} {c : Char}

/-- What stands for itself: letters and digits of ASCII and four marks. -/
def Plain (c : Char) : Prop := c.isAlphanum = true ∨ c ∈ ['*', '-', '.', '_']

instance : Decidable (Plain c) := inferInstanceAs (Decidable (_ ∨ _))

/-- The bytes that stand for themselves, by number: digits, letters and four marks. -/
theorem isPlain_iff :
    isPlain b = true
      ↔ (48 ≤ b.toNat ∧ b.toNat ≤ 57) ∨ (65 ≤ b.toNat ∧ b.toNat ≤ 90)
        ∨ (97 ≤ b.toNat ∧ b.toNat ≤ 122)
        ∨ b.toNat = 42 ∨ b.toNat = 45 ∨ b.toNat = 46 ∨ b.toNat = 95 := by
  simp [isPlain, UInt8.le_iff_toNat_le, ← UInt8.toNat_inj, or_assoc]

/-- Every byte is the code of a character, as it is below the surrogates. -/
theorem toNat_charOfByte (b : UInt8) : (Char.ofNat b.toNat).toNat = b.toNat := by
  have hlt := b.toNat_lt
  have hvalid : b.toNat.isValidChar := .inl (by omega)
  rw [Char.ofNat, dif_pos hvalid]
  rfl

/-- A character with the code of a digit or a letter is one. -/
theorem isAlphanum_of_code
    (h : (48 ≤ c.toNat ∧ c.toNat ≤ 57) ∨ (65 ≤ c.toNat ∧ c.toNat ≤ 90)
      ∨ (97 ≤ c.toNat ∧ c.toNat ≤ 122)) : c.isAlphanum = true := by
  rcases h with ⟨hlow, hhigh⟩ | hupper | ⟨hlow, hhigh⟩
  · have hdigit : c.isDigit = true :=
      (Bool.and_eq_true _ _).mpr ⟨decide_eq_true hlow, decide_eq_true hhigh⟩
    exact Bool.or_eq_true_iff.mpr (.inr hdigit)
  · have hletter : c.isUpper = true := decide_eq_true hupper
    exact Bool.or_eq_true_iff.mpr (.inl (Bool.or_eq_true_iff.mpr (.inl hletter)))
  · have hletter : c.isLower = true :=
      (Bool.and_eq_true _ _).mpr ⟨decide_eq_true hlow, decide_eq_true hhigh⟩
    exact Bool.or_eq_true_iff.mpr (.inl (Bool.or_eq_true_iff.mpr (.inr hletter)))

/-- A byte that stands for itself is written as a plain character. -/
theorem plain_of_isPlain (h : isPlain b = true) : Plain (Char.ofNat b.toNat) := by
  by_cases hmark : b.toNat = 42 ∨ b.toNat = 45 ∨ b.toNat = 46 ∨ b.toNat = 95
  · right
    rcases hmark with h | h | h | h
    all_goals
      rw [h]
      decide
  · left
    have hletter := isPlain_iff.mp h
    rw [← toNat_charOfByte b] at hletter hmark
    exact isAlphanum_of_code (by omega)

/-- A plain character takes one byte in UTF-8, the one that it stands for. -/
theorem utf8EncodeChar_of_isPlain (h : isPlain b = true) :
    String.utf8EncodeChar (Char.ofNat b.toNat) = [b] := by
  have hlt := isPlain_iff.mp h
  have hcode : (Char.ofNat b.toNat).val.toNat = b.toNat := toNat_charOfByte b
  simp only [String.utf8EncodeChar, hcode]
  rw [if_pos (by omega), UInt8.ofNat_toNat]

/-- The sixteen digits are read back, and none of them is a mark. -/
theorem hexValue?_upperHexDigit : ∀ n < 16,
    Json.hexValue? (upperHexDigit n) = some n ∧ (upperHexDigit n).isAlphanum = true := by
  decide

/-- The two digits of a byte give the byte. -/
theorem byteOfDigits?_upperHexDigit (b : UInt8) :
    byteOfDigits? (upperHexDigit (b.toNat / 16)) (upperHexDigit (b.toNat % 16)) = some b := by
  have hlt := b.toNat_lt
  have hhigh := (hexValue?_upperHexDigit (b.toNat / 16) (by omega)).1
  have hlow := (hexValue?_upperHexDigit (b.toNat % 16) (by omega)).1
  have hbyte : UInt8.ofNat (16 * (b.toNat / 16) + b.toNat % 16) = b := by
    rw [Nat.div_add_mod, UInt8.ofNat_toNat]
  simp only [byteOfDigits?, hhigh, hlow, Option.bind_eq_bind, Option.bind_some, hbyte]
  rfl

/-- A byte is written as itself, as a plus or by its two digits. -/
theorem encodeByte_cases (b : UInt8) :
    (∃ c, encodeByte b = [c] ∧ Plain c ∧ String.utf8EncodeChar c = [b])
    ∨ (b = 0x20 ∧ encodeByte b = ['+'])
    ∨ ∃ high low, encodeByte b = ['%', high, low] ∧ byteOfDigits? high low = some b
        ∧ high.isAlphanum = true ∧ low.isAlphanum = true := by
  unfold encodeByte
  by_cases hplain : isPlain b = true
  · left
    rw [if_pos hplain]
    exact ⟨_, rfl, plain_of_isPlain hplain, utf8EncodeChar_of_isPlain hplain⟩
  · right
    rw [if_neg hplain]
    by_cases hspace : b = 0x20
    · left
      exact ⟨hspace, if_pos hspace⟩
    · right
      have hlt := b.toNat_lt
      rw [if_neg hspace]
      exact ⟨_, _, rfl, byteOfDigits?_upperHexDigit b,
        (hexValue?_upperHexDigit _ (by omega)).2, (hexValue?_upperHexDigit _ (by omega)).2⟩

-- ======================================================= keys and values return

/-- A percent sign and two digits are read as the byte that they write. -/
theorem decodeBytes_digits {high low : Char} (h : byteOfDigits? high low = some b)
    (rest : List Char) : decodeBytes ('%' :: high :: low :: rest) = b :: decodeBytes rest := by
  rw [decodeBytes, h]

/-- A plain character is read as its own bytes. -/
theorem decodeBytes_plain (h : Plain c) (rest : List Char) :
    decodeBytes (c :: rest) = String.utf8EncodeChar c ++ decodeBytes rest := by
  rw [decodeBytes]
  · intro hplus
    subst hplus
    exact absurd h (by decide)
  · intro high low rest' hpercent
    subst hpercent
    exact absurd h (by decide)

/-- What is written for a byte is read as this byte, whatever comes after it. -/
theorem decodeBytes_encodeByte (b : UInt8) (rest : List Char) :
    decodeBytes (encodeByte b ++ rest) = b :: decodeBytes rest := by
  rcases encodeByte_cases b with ⟨c, hc, hplain, hbytes⟩ | ⟨hspace, hplus⟩
    | ⟨high, low, hdigits, hbyte, -, -⟩
  · rw [hc, List.singleton_append, decodeBytes_plain hplain, hbytes]
    rfl
  · rw [hplus, hspace]
    rfl
  · rw [hdigits]
    exact decodeBytes_digits hbyte rest

/-- Bytes are read back one after the other, since none of the three ways to write one
is the beginning of another. -/
theorem decodeBytes_flatMap (bytes : List UInt8) :
    decodeBytes (bytes.flatMap encodeByte) = bytes := by
  induction bytes with
  | nil => rfl
  | cons b bytes ih => rw [List.flatMap_cons, decodeBytes_encodeByte, ih]

/-- A text is read back, as its bytes are and they are valid UTF-8. -/
theorem decodeText?_encodeText (s : String) : decodeText? (encodeText s) = some s := by
  rw [decodeText?, encodeText, decodeBytes_flatMap]
  exact MsgPack.textOfBytes?_utf8 s

-- ====================================================================== marks

/-- What keys and values are written in. -/
def Written (c : Char) : Prop := Plain c ∨ c = '+' ∨ c = '%'

instance : Decidable (Written c) := inferInstanceAs (Decidable (_ ∨ _))

/-- A byte is written with plain characters, percent and plus signs. -/
theorem written_of_mem_encodeByte (h : c ∈ encodeByte b) : Written c := by
  rcases encodeByte_cases b with ⟨d, hd, hplain, -⟩ | ⟨-, hplus⟩
    | ⟨high, low, hdigits, -, hhigh, hlow⟩
  · rw [hd] at h
    obtain rfl := List.mem_singleton.mp h
    exact .inl hplain
  · rw [hplus] at h
    exact .inr (.inl (List.mem_singleton.mp h))
  · rw [hdigits] at h
    simp only [List.mem_cons, List.not_mem_nil, or_false] at h
    rcases h with rfl | rfl | rfl
    · exact .inr (.inr rfl)
    · exact .inl (.inl hhigh)
    · exact .inl (.inl hlow)

/-- So is a text. -/
theorem written_of_mem_encodeText {s : String} (h : c ∈ encodeText s) : Written c := by
  obtain ⟨b, -, hb⟩ := List.mem_flatMap.mp h
  exact written_of_mem_encodeByte hb

/-- The mark between a name and a value does not occur in either. -/
theorem equals_not_mem_encodeText (s : String) : '=' ∉ encodeText s := fun h =>
  absurd (written_of_mem_encodeText h) (by decide)

/-- Of the marks a pair holds only the one between its name and its value. -/
theorem mem_encodePair {p : String × String} (h : c ∈ encodePair p) : Written c ∨ c = '=' := by
  rcases List.mem_append.mp h with hkey | hrest
  · exact .inl (written_of_mem_encodeText hkey)
  · rcases List.mem_cons.mp hrest with hmark | hvalue
    · exact .inr hmark
    · exact .inl (written_of_mem_encodeText hvalue)

/-- The mark between pairs does not occur in a pair. -/
theorem and_not_mem_encodePair (p : String × String) : '&' ∉ encodePair p := fun h =>
  absurd (mem_encodePair h) (by decide)

/-- The characters in which parameters are written. -/
theorem mem_encodeParams {params : List (String × String)} (h : c ∈ encodeParams params) :
    Written c ∨ c = '=' ∨ c = '&' := by
  rcases Text.mem_joinWith h with hmark | ⟨piece, hpiece, hc⟩
  · exact .inr (.inr hmark)
  · obtain ⟨p, -, rfl⟩ := List.mem_map.mp hpiece
    exact (mem_encodePair hc).imp_right .inl

end bytes

-- ====================================================================== pairs

/-- A pair is cut where it was joined, and both parts are read back. -/
theorem decodePair?_encodePair (p : String × String) : decodePair? (encodePair p) = some p := by
  obtain ⟨key, value⟩ := p
  have hcut : Text.splitAt '=' (encodePair (key, value)) = [encodeText key, encodeText value] := by
    rw [encodePair, Text.splitAt_append (equals_not_mem_encodeText key),
      Text.splitAt_of_not_mem (equals_not_mem_encodeText value)]
  simp only [decodePair?, hcut, decodeText?_encodeText]
  rfl

/-- All pairs are read back. -/
theorem mapM_decodePair? (params : List (String × String)) :
    (params.map encodePair).mapM decodePair? = some params := by
  induction params with
  | nil => rfl
  | cons p params ih =>
      rw [List.map_cons, List.mapM_cons, decodePair?_encodePair, ih]
      rfl

/-- Pairs are read in their order, if there are any. -/
theorem decodeParams?_encodeParams {params : List (String × String)} (h : params ≠ []) :
    decodeParams? (encodeParams params) = some params := by
  have hcut : Text.splitAt '&' (encodeParams params) = params.map encodePair := by
    refine Text.splitAt_joinWith (mt List.map_eq_nil_iff.mp h) ?_
    intro piece hpiece
    obtain ⟨p, -, rfl⟩ := List.mem_map.mp hpiece
    exact and_not_mem_encodePair p
  rw [decodeParams?, hcut, mapM_decodePair?]

/-- Even a pair of empty texts leaves a mark. -/
theorem encodeParams_eq_nil {params : List (String × String)} :
    encodeParams params = [] ↔ params = [] := by
  constructor
  · intro h
    cases params with
    | nil => rfl
    | cons p params =>
        rw [encodeParams, List.map_cons, Text.joinWith_cons, encodePair] at h
        simp at h
  · intro h
    rw [h]
    rfl

-- ======================================================================= texts

section texts

variable {command : String} {params : List (String × String)}

/-- A command without parameters is its own text. -/
theorem text_nil (command : String) : text command [] = command := rfl

/-- A command with parameters is the command, a question mark and the parameters. -/
theorem toList_text (h : params ≠ []) :
    (text command params).toList = command.toList ++ '?' :: encodeParams params := by
  have hsome : ¬ (encodeParams params).isEmpty = true := fun hempty =>
    h (encodeParams_eq_nil.mp (List.isEmpty_iff.mp hempty))
  rw [text, if_neg hsome]
  simp

/-- The first question mark is the one behind the command. -/
theorem cutAt?_text (hcommand : '?' ∉ command.toList) (h : params ≠ []) :
    Text.cutAt? '?' (text command params).toList
      = some (command.toList, encodeParams params) := by
  rw [toList_text h, Text.cutAt?_append hcommand]

/-- A command that holds no question mark is read back with its parameters. -/
theorem read?_text (hcommand : '?' ∉ command.toList) (params : List (String × String)) :
    read? (text command params) = some (command, params) := by
  by_cases h : params = []
  · rw [h, text_nil, read?, Text.cutAt?_of_not_mem hcommand]
  · rw [read?, cutAt?_text hcommand h]
    simp only [decodeParams?_encodeParams h, Option.map_some, String.ofList_toList]

/-- The text is the bare command exactly if there are no parameters. -/
theorem text_eq_self : text command params = command ↔ params = [] := by
  constructor
  · intro h
    by_contra hne
    have hlist : (text command params).toList = command.toList ++ '?' :: encodeParams params :=
      toList_text hne
    rw [h] at hlist
    simpa using congrArg List.length hlist
  · intro h
    rw [h, text_nil]

/-- A protocol command can be read back from its text. For every command without a
question mark and all parameters, whatever texts their keys and values are,

- reading the text gives the command and its parameters in their order;
- no other command without a question mark and no other parameters have the text;
- the text is the command alone if and only if there are no parameters;
- whatever stands behind the first question mark stands behind the command, and is
  made of letters and digits of ASCII and eight other characters. -/
theorem commands_are_read_back (command : String) (hcommand : '?' ∉ command.toList)
    (params : List (String × String)) :
    read? (text command params) = some (command, params)
    ∧ (∀ command' params', '?' ∉ command'.toList → text command' params' = text command params →
        command' = command ∧ params' = params)
    ∧ (text command params = command ↔ params = [])
    ∧ ∀ before query, Text.cutAt? '?' (text command params).toList = some (before, query) →
        before = command.toList
        ∧ ∀ c ∈ query, c.isAlphanum = true ∨ c ∈ ['*', '-', '.', '_', '+', '%', '=', '&'] := by
  have hread := read?_text hcommand params
  refine ⟨hread, ?_, text_eq_self, ?_⟩
  · intro command' params' hcommand' htext
    have hread' := read?_text hcommand' params'
    rw [htext, hread] at hread'
    obtain ⟨rfl, rfl⟩ := Prod.mk.inj (Option.some.inj hread')
    exact ⟨rfl, rfl⟩
  · intro before query hcut
    by_cases h : params = []
    · rw [h, text_nil, Text.cutAt?_of_not_mem hcommand] at hcut
      cases hcut
    · rw [cutAt?_text hcommand h] at hcut
      obtain ⟨rfl, rfl⟩ := Prod.mk.inj (Option.some.inj hcut)
      refine ⟨rfl, fun c hc => ?_⟩
      rcases mem_encodeParams hc with ((hletter | hmark) | rfl | rfl) | rfl | rfl
      · exact .inl hletter
      · exact .inr (List.mem_append_left ['+', '%', '=', '&'] hmark)
      all_goals exact .inr (by decide)

/-- Marks in a value, letters outside of ASCII, and empty pairs, one like the other. -/
theorem filters_are_read_back :
    '?' ∉ "START-SEND-EVENTS".toList
    ∧ text "START-SEND-EVENTS" [("filter", "a=b&c +d%é?"), ("", ""), ("", "")]
      = "START-SEND-EVENTS?filter=a%3Db%26c+%2Bd%25%C3%A9%3F&=&="
    ∧ read? "START-SEND-EVENTS?filter=a%3Db%26c+%2Bd%25%C3%A9%3F&=&="
      = some ("START-SEND-EVENTS", [("filter", "a=b&c +d%é?"), ("", ""), ("", "")]) := by
  have hcommand : '?' ∉ "START-SEND-EVENTS".toList := by decide
  have htext : text "START-SEND-EVENTS" [("filter", "a=b&c +d%é?"), ("", ""), ("", "")]
      = "START-SEND-EVENTS?filter=a%3Db%26c+%2Bd%25%C3%A9%3F&=&=" := by decide +kernel
  refine ⟨hcommand, htext, ?_⟩
  rw [← htext]
  exact (commands_are_read_back _ hcommand _).1

end texts

end ProtocolCommand

end DeviceTwin
