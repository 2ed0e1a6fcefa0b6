/-
MessagePack bytes are read back as they are written.

A number of so many bytes is read back if it is below the power of 256 of
that width, and every head is chosen so that its number is. Unlike in a
text, nothing is said about what comes after a value: its head tells where
it ends. Floating-point numbers come back bit by bit. The one condition is
that no text, list or object is longer than its head can say (`Fits`).

The induction is over the value, with three units of fuel for each byte
that is still to be read: a long list costs two calls before its first item
is read.
-/
import DeviceTwin.MsgPack.Reader
import DeviceTwin.MsgPack.Writer
import DeviceTwin.Proofs.Outline.Value
import Mathlib.Tactic.Ring

namespace DeviceTwin.MsgPack

-- ============================================================== bytes, words

/-- A number below 256 survives as a byte. -/
theorem toNat_ofNat {n : Nat} (h : n < 256) : (UInt8.ofNat n).toNat = n :=
  UInt8.toNat_ofNat_of_lt' h

/-- Taking as many bytes as there are in front gives these bytes and the rest. -/
theorem take?_append (bs rest : List UInt8) :
    take? bs.length (bs ++ rest) = some (bs, rest) := by
  induction bs with
  | nil => rfl
  | cons b bs ih =>
      simp only [List.length_cons, List.cons_append, take?, ih, Option.map_some]

/-- A number in big-endian order takes exactly its width. -/
theorem length_bigEndian (width n : Nat) : (bigEndian width n).length = width := by
  induction width with
  | zero => rfl
  | succ width ih => simp only [bigEndian, List.length_cons, ih]

/-- The bytes of a number are its digits to the base 256. -/
theorem foldl_bigEndian (width n acc : Nat) :
    (bigEndian width n).foldl (fun k b => 256 * k + b.toNat) acc
      = 256 ^ width * acc + n % 256 ^ width := by
  induction width generalizing acc with
  | zero => simp [bigEndian, Nat.mod_one]
  | succ width ih =>
      have hdigit : (UInt8.ofNat (n / 256 ^ width)).toNat = n / 256 ^ width % 256 :=
        UInt8.toNat_ofNat'
      rw [bigEndian, List.foldl_cons, ih, Nat.pow_eq, hdigit, Nat.mod_pow_succ,
        Nat.pow_succ]
      ring

/-- A number that fits its width is read back. -/
theorem readNat?_bigEndian (width : Nat) {n : Nat} (rest : List UInt8)
    (h : n < 256 ^ width) :
    readNat? width (bigEndian width n ++ rest) = some (n, rest) := by
  have htake := take?_append (bigEndian width n) rest
  rw [length_bigEndian] at htake
  have hvalue : ofBigEndian (bigEndian width n) = n := by
    unfold ofBigEndian
    rw [foldl_bigEndian, Nat.mul_zero, Nat.zero_add, Nat.mod_eq_of_lt h]
  simp only [readNat?, htake, Option.map_some, hvalue]

/-- The same as an unsigned integer, which is what the marks for numbers lead to. -/
theorem readUnsigned_bigEndian (width : Nat) {n : Nat} (rest : List UInt8)
    (h : n < 256 ^ width) :
    readUnsigned width (bigEndian width n ++ rest) = (integer n, rest) := by
  rw [readUnsigned, readNat?_bigEndian width rest h]

/-- A negative number is read from its two's complement. -/
theorem readSigned_bigEndian (width : Nat) {m : Nat} (rest : List UInt8) (hpos : 0 < m)
    (h : 2 * m ≤ 256 ^ width) :
    readSigned width (bigEndian width (256 ^ width - m) ++ rest)
      = (integer (-m), rest) := by
  have hvalue : ((256 ^ width - m : Nat) : Int) - ((256 ^ width : Nat) : Int)
      = -(m : Int) := by omega
  rw [readSigned, readNat?_bigEndian width rest (by omega)]
  simp only [Nat.pow_eq]
  rw [if_neg (by omega), hvalue]

/-- A length that fits its width is read back, and what follows is read with it. -/
theorem withLength_bigEndian (width : Nat) {n : Nat} (rest : List UInt8)
    (read : Nat → List UInt8 → Outline × List UInt8) (h : n < 256 ^ width) :
    withLength width (bigEndian width n ++ rest) read = read n rest := by
  rw [withLength, readNat?_bigEndian width rest h]

-- ================================================================== integers

variable {fuel : Nat}

/-- An integer in the range of the format is the integer that its number makes. -/
theorem integer_val (n : Integer) : integer n.val = .int n := by
  rw [integer, Integer.ofInt?_val]

/-- A first byte below 128 is a number. -/
theorem readValue_small {b : UInt8} (bs : List UInt8) (h : b.toNat < 0x80) :
    readValue (fuel + 1) (b :: bs) = (integer b.toNat, bs) := by
  rw [readValue]
  exact if_pos h

/-- So is one from 224 up, of a negative one. -/
theorem readValue_negative {b : UInt8} (bs : List UInt8) (h : 0xE0 ≤ b.toNat) :
    readValue (fuel + 1) (b :: bs) = (integer ((b.toNat : Int) - 256), bs) := by
  rw [readValue]
  simp only
  rw [if_neg (by omega), if_neg (by omega), if_neg (by omega), if_neg (by omega),
    if_pos h]

/-- A number of 64 bits is read back, whichever of the five forms its size selects. -/
theorem readValue_writeNat {n : Nat} (rest : List UInt8)
    (h : n < 18446744073709551616) :
    readValue (fuel + 1) (writeNat n ++ rest) = (integer n, rest) := by
  unfold writeNat
  split_ifs with hsmall h1 h2 h4
  · have hbyte := toNat_ofNat (Nat.lt_trans hsmall (by decide))
    rw [List.singleton_append, readValue_small rest (by omega), hbyte]
  · rw [List.cons_append, readValue]
    exact readUnsigned_bigEndian 1 rest (by omega)
  · rw [List.cons_append, readValue]
    exact readUnsigned_bigEndian 2 rest (by omega)
  · rw [List.cons_append, readValue]
    exact readUnsigned_bigEndian 4 rest (by omega)
  · rw [List.cons_append, readValue]
    exact readUnsigned_bigEndian 8 rest (by omega)

/-- A negative number of 64 bits is read back, whichever of the five forms its size
selects. -/
theorem readValue_writeNegative {m : Nat} (rest : List UInt8) (hpos : 0 < m)
    (h : m ≤ 9223372036854775808) :
    readValue (fuel + 1) (writeNegative m ++ rest) = (integer (-m), rest) := by
  unfold writeNegative
  split_ifs with hsmall h1 h2 h4
  · have hbyte := toNat_ofNat (show 256 - m < 256 by omega)
    have hvalue : ((256 - m : Nat) : Int) - 256 = -(m : Int) := by omega
    rw [List.singleton_append, readValue_negative rest (by omega), hbyte, hvalue]
  · rw [List.cons_append, readValue]
    exact readSigned_bigEndian 1 rest hpos (by omega)
  · rw [List.cons_append, readValue]
    exact readSigned_bigEndian 2 rest hpos (by omega)
  · rw [List.cons_append, readValue]
    exact readSigned_bigEndian 4 rest hpos (by omega)
  · rw [List.cons_append, readValue]
    exact readSigned_bigEndian 8 rest hpos (by omega)

/-- An integer is read from the shortest of its forms. -/
theorem readValue_writeInteger (n : Integer) (rest : List UInt8) :
    readValue (fuel + 1) (writeInteger n ++ rest) = (.int n, rest) := by
  have hlower := n.lower
  have hupper := n.upper
  unfold writeInteger
  split
  case isTrue hpos =>
    have hval : ((n.val.toNat : Nat) : Int) = n.val := Int.toNat_of_nonneg hpos
    rw [readValue_writeNat rest (by omega), hval, integer_val]
  case isFalse hneg =>
    have hval : -((n.val.natAbs : Nat) : Int) = n.val := by omega
    rw [readValue_writeNegative rest (by omega) (by omega), hval, integer_val]

-- ===================================================================== texts

/-- What the loop over a byte array has done, with the bytes that are still to come. -/
theorem toList_loop (bs : ByteArray) (i : Nat) (done : List UInt8) :
    ByteArray.toList.loop bs i done = done.reverse ++ bs.data.toList.drop i := by
  induction h : bs.size - i generalizing i done with
  | zero =>
      have hend : bs.data.toList.drop i = [] :=
        List.drop_eq_nil_of_le (by rw [Array.length_toList]; exact Nat.le_of_sub_eq_zero h)
      rw [ByteArray.toList.loop, if_neg (by omega), hend, List.append_nil]
  | succ k ih =>
      have hlt : i < bs.size := by omega
      have hget : bs.data.toList.drop i = bs.get! i :: bs.data.toList.drop (i + 1) := by
        rw [List.drop_eq_getElem_cons (by simpa using hlt)]
        congr 1
        exact (getElem!_pos bs.data i hlt).symm
      rw [ByteArray.toList.loop, if_pos hlt, ih _ _ (by omega), hget,
        List.reverse_cons, List.append_assoc, List.singleton_append]

/-- The bytes of a text. -/
theorem utf8_eq (s : String) : utf8 s = s.toByteArray.data.toList :=
  toList_loop s.toByteArray 0 []

/-- A text takes as many bytes as its length in UTF-8 says. -/
theorem length_utf8 (s : String) : (utf8 s).length = s.utf8ByteSize := by
  rw [utf8_eq]
  rfl

/-- The bytes of a text spell it. -/
theorem textOfBytes?_utf8 (s : String) : Outline.textOfBytes? (utf8 s) = some s := by
  rw [utf8_eq, Outline.textOfBytes?, Array.toArray_toList]
  exact dif_pos s.isValidUTF8

/-- A text is read back from as many bytes as it takes. -/
theorem readText_utf8 (s : String) (rest : List UInt8) :
    readText s.utf8ByteSize (utf8 s ++ rest) = (.text s, rest) := by
  have htake := take?_append (utf8 s) rest
  rw [length_utf8] at htake
  simp only [readText, htake, textOfBytes?_utf8]

/-- A first byte from 160 to 191 is the head of a short text. -/
theorem readValue_shortText {b : UInt8} (bs : List UInt8) (hlow : 0xA0 ≤ b.toNat)
    (hhigh : b.toNat < 0xC0) :
    readValue (fuel + 1) (b :: bs) = readText (b.toNat - 0xA0) bs := by
  rw [readValue]
  simp only
  rw [if_neg (by omega), if_neg (by omega), if_neg (by omega), if_pos hhigh]

/-- The head of a text says how many bytes the text takes, in the shortest form for this
number. -/
theorem readValue_textHead {n : Nat} (bs : List UInt8) (h : n < 4294967296) :
    readValue (fuel + 1) (textHead n ++ bs) = readText n bs := by
  unfold textHead
  split_ifs with hshort h1 h2
  · have hbyte := toNat_ofNat (show 0xA0 + n < 256 by omega)
    rw [List.singleton_append, readValue_shortText bs (by omega) (by omega), hbyte,
      Nat.add_sub_cancel_left]
  · rw [List.cons_append, readValue]
    exact withLength_bigEndian 1 bs readText (by omega)
  · rw [List.cons_append, readValue]
    exact withLength_bigEndian 2 bs readText (by omega)
  · rw [List.cons_append, readValue]
    exact withLength_bigEndian 4 bs readText (by omega)

/-- A text is read back, unless it is so long that no head can say so. -/
theorem readValue_writeText {s : String} (rest : List UInt8)
    (h : s.utf8ByteSize < 4294967296) :
    readValue (fuel + 1) (writeText s ++ rest) = (.text s, rest) := by
  simp only [writeText, length_utf8, List.append_assoc]
  rw [readValue_textHead _ h, readText_utf8]

-- ========================================================= lists and objects

/-- A first byte from 144 to 159 is the head of a short list. -/
theorem readValue_shortList {b : UInt8} (bs : List UInt8) (hlow : 0x90 ≤ b.toNat)
    (hhigh : b.toNat < 0xA0) {os : List Outline} {rest : List UInt8}
    (hitems : readItems fuel (b.toNat - 0x90) bs = (os, rest)) :
    readValue (fuel + 1) (b :: bs) = (.list os, rest) := by
  rw [readValue]
  simp only
  rw [if_neg (by omega), if_neg (by omega), if_pos hhigh]
  simp only [hitems]

/-- One from 128 to 143 is that of a short object. -/
theorem readValue_shortObject {b : UInt8} (bs : List UInt8) (hlow : 0x80 ≤ b.toNat)
    (hhigh : b.toNat < 0x90) {os : List (Outline × Outline)} {rest : List UInt8}
    (hentries : readEntries fuel (b.toNat - 0x80) bs = (os, rest)) :
    readValue (fuel + 1) (b :: bs) = (.object os, rest) := by
  rw [readValue]
  simp only
  rw [if_neg (by omega), if_pos hhigh]
  simp only [hentries]

/-- A list after a length in big-endian order is the list of so many items. -/
theorem readLongList_bigEndian (width : Nat) {n : Nat} {bs rest : List UInt8}
    {os : List Outline} (h : n < 256 ^ width)
    (hitems : readItems fuel n bs = (os, rest)) :
    readLongList (fuel + 1) width (bigEndian width n ++ bs) = (.list os, rest) := by
  simp only [readLongList, readNat?_bigEndian width bs h, hitems]

/-- An object after a length in big-endian order is the object of so many entries. -/
theorem readLongObject_bigEndian (width : Nat) {n : Nat} {bs rest : List UInt8}
    {os : List (Outline × Outline)} (h : n < 256 ^ width)
    (hentries : readEntries fuel n bs = (os, rest)) :
    readLongObject (fuel + 1) width (bigEndian width n ++ bs) = (.object os, rest) := by
  simp only [readLongObject, readNat?_bigEndian width bs h, hentries]

/-- A list is read after its head; a long head takes one more call. -/
theorem readValue_listHead {n : Nat} {bs rest : List UInt8} {os : List Outline}
    (h : n < 4294967296) (hitems : ∀ f ≥ fuel, readItems f n bs = (os, rest)) :
    readValue (fuel + 2) (listHead n ++ bs) = (.list os, rest) := by
  unfold listHead
  split_ifs with hshort h2
  · have hbyte := toNat_ofNat (show 0x90 + n < 256 by omega)
    refine readValue_shortList bs (by omega) (by omega) ?_
    rw [hbyte, Nat.add_sub_cancel_left]
    exact hitems _ (Nat.le_succ _)
  · rw [List.cons_append, readValue]
    exact readLongList_bigEndian 2 (by omega) (hitems _ (Nat.le_refl _))
  · rw [List.cons_append, readValue]
    exact readLongList_bigEndian 4 (by omega) (hitems _ (Nat.le_refl _))

/-- The head of an object leads to its entries, in the shortest form for their
number. -/
theorem readValue_objectHead {n : Nat} {bs rest : List UInt8}
    {os : List (Outline × Outline)} (h : n < 4294967296)
    (hentries : ∀ f ≥ fuel, readEntries f n bs = (os, rest)) :
    readValue (fuel + 2) (objectHead n ++ bs) = (.object os, rest) := by
  unfold objectHead
  split_ifs with hshort h2
  · have hbyte := toNat_ofNat (show 0x80 + n < 256 by omega)
    refine readValue_shortObject bs (by omega) (by omega) ?_
    rw [hbyte, Nat.add_sub_cancel_left]
    exact hentries _ (Nat.le_succ _)
  · rw [List.cons_append, readValue]
    exact readLongObject_bigEndian 2 (by omega) (hentries _ (Nat.le_refl _))
  · rw [List.cons_append, readValue]
    exact readLongObject_bigEndian 4 (by omega) (hentries _ (Nat.le_refl _))

/-- Items are read one after the other. -/
theorem readItems_succ {count : Nat} {bs more rest : List UInt8} {o : Outline}
    {os : List Outline} (hne : bs ≠ []) (hitem : readValue fuel bs = (o, more))
    (hitems : readItems fuel count more = (os, rest)) :
    readItems (fuel + 1) (count + 1) bs = (o :: os, rest) := by
  cases bs with
  | nil => exact absurd rfl hne
  | cons b bs => simp only [readItems, hitem, hitems]

/-- A key that is a text is kept as it is. -/
theorem keyOf_text (bs : List UInt8) (key : String) :
    keyOf bs (.text key) = .text key := by
  cases bs <;> rfl

/-- Entries are read one after the other, each one as a text and a value. -/
theorem readEntries_succ {count : Nat} {bs between more rest : List UInt8}
    {key : String} {o : Outline} {os : List (Outline × Outline)} (hne : bs ≠ [])
    (hkey : readValue fuel bs = (.text key, between))
    (hitem : readValue fuel between = (o, more))
    (hentries : readEntries fuel count more = (os, rest)) :
    readEntries (fuel + 1) (count + 1) bs = ((.text key, o) :: os, rest) := by
  cases bs with
  | nil => exact absurd rfl hne
  | cons b bs => simp only [readEntries, hkey, keyOf_text, hitem, hentries]

-- ==================================================================== values

mutual

/-- No text, list or object is too long for its head. -/
def Fits : Value → Prop
  | .text s => s.utf8ByteSize < 4294967296
  | .list items => items.length < 4294967296 ∧ ListFits items
  | .object entries => entries.length < 4294967296 ∧ EntriesFits entries
  | .null | .bool _ | .int _ | .float _ => True

/-- The parts of every item can be counted by heads. -/
def ListFits : List Value → Prop
  | [] => True
  | v :: vs => Fits v ∧ ListFits vs

/-- Every key and the parts of every value can be counted by heads. -/
def EntriesFits : List (String × Value) → Prop
  | [] => True
  | (key, v) :: es => key.utf8ByteSize < 4294967296 ∧ Fits v ∧ EntriesFits es

end

/-- A text fits if its bytes can be counted. -/
theorem fits_text {s : String} (h : s.utf8ByteSize < 4294967296) : Fits (.text s) := h

/-- A text has a head even if it is empty. -/
theorem textHead_ne_nil (n : Nat) : textHead n ≠ [] := by
  unfold textHead
  split_ifs <;> exact List.cons_ne_nil _ _

/-- A list has a head even if it is empty. -/
theorem listHead_ne_nil (n : Nat) : listHead n ≠ [] := by
  unfold listHead
  split_ifs <;> exact List.cons_ne_nil _ _

/-- An object has a head even if it is empty. -/
theorem objectHead_ne_nil (n : Nat) : objectHead n ≠ [] := by
  unfold objectHead
  split_ifs <;> exact List.cons_ne_nil _ _

/-- So at least one byte is written for a text. -/
theorem writeText_ne_nil (s : String) : writeText s ≠ [] :=
  List.append_ne_nil_of_left_ne_nil (textHead_ne_nil _) _

/-- Every value takes a byte at least. -/
theorem write_ne_nil (v : Value) : write v ≠ [] := by
  cases v with
  | null => exact List.cons_ne_nil _ _
  | bool b => exact List.cons_ne_nil _ _
  | int n =>
      unfold write writeInteger writeNat writeNegative
      split_ifs <;> exact List.cons_ne_nil _ _
  | float x => exact List.cons_ne_nil _ _
  | text s => exact writeText_ne_nil s
  | list items =>
      rw [write]
      exact List.append_ne_nil_of_left_ne_nil (listHead_ne_nil _) _
  | object entries =>
      rw [write]
      exact List.append_ne_nil_of_left_ne_nil (objectHead_ne_nil _) _

mutual

/-- Nothing in so few bytes is too long for its head. -/
theorem fits_of_length_write {v : Value} (h : (write v).length < 4294967296) : Fits v := by
  cases v with
  | null | bool | int | float => trivial
  | text s =>
      rw [write, writeText, List.length_append, length_utf8] at h
      exact Nat.lt_of_le_of_lt (Nat.le_add_left _ _) h
  | list items =>
      rw [write, List.length_append] at h
      have hitems := @listFits_of_length_writeItems items (by omega)
      exact ⟨by omega, hitems.2⟩
  | object entries =>
      rw [write, List.length_append] at h
      have hentries := @entriesFits_of_length_writeEntries entries (by omega)
      exact ⟨by omega, hentries.2⟩

/-- Items that take few bytes are few and fit, because each of them takes at least
one. -/
theorem listFits_of_length_writeItems {items : List Value}
    (h : (writeItems items).length < 4294967296) :
    items.length ≤ (writeItems items).length ∧ ListFits items := by
  cases items with
  | nil => exact ⟨Nat.zero_le _, trivial⟩
  | cons v items =>
      have hpos := List.length_pos_of_ne_nil (write_ne_nil v)
      rw [writeItems, List.length_append] at h ⊢
      have hv := fits_of_length_write (v := v) (by omega)
      have hitems := @listFits_of_length_writeItems items (by omega)
      exact ⟨by rw [List.length_cons]; omega, hv, hitems.2⟩

/-- Entries that take few bytes are few and fit, because each of them takes at least
two. -/
theorem entriesFits_of_length_writeEntries {entries : List (String × Value)}
    (h : (writeEntries entries).length < 4294967296) :
    entries.length ≤ (writeEntries entries).length ∧ EntriesFits entries := by
  match entries with
  | [] => exact ⟨Nat.zero_le _, trivial⟩
  | (key, v) :: entries =>
      have hpos := List.length_pos_of_ne_nil (write_ne_nil v)
      rw [writeEntries, List.length_append, List.length_append] at h ⊢
      have hkey : key.utf8ByteSize < 4294967296 := by
        rw [writeText, List.length_append, length_utf8] at h
        omega
      have hv := fits_of_length_write (v := v) (by omega)
      have hentries := @entriesFits_of_length_writeEntries entries (by omega)
      exact ⟨by rw [List.length_cons]; omega, hkey, hv, hentries.2⟩

end

/-- A floating-point number is read back bit by bit, so that the two zeros stay apart. -/
theorem readValue_float (x : Double) (rest : List UInt8) :
    readValue (fuel + 1) (write (.float x) ++ rest) = (.float x, rest) := by
  have hbits : readNat? 8 (bigEndian 8 x.bits.toNat ++ rest)
      = some (x.bits.toNat, rest) :=
    readNat?_bigEndian 8 rest (by have := x.bits.toNat_lt; omega)
  have hdouble : readDouble (bigEndian 8 x.bits.toNat ++ rest) = (.float x, rest) := by
    simp only [readDouble, hbits, UInt64.ofNat_toNat, float, Double.ofBits?_bits]
  rw [write, List.cons_append, readValue]
  exact hdouble

mutual

/-- A value is read as its outline. -/
theorem readValue_write {v : Value} (hfits : Fits v) {fuel : Nat}
    {rest : List UInt8} (hfuel : 3 * (write v).length ≤ fuel) :
    readValue fuel (write v ++ rest) = (v.outline, rest) := by
  have hpos := List.length_pos_of_ne_nil (write_ne_nil v)
  obtain ⟨fuel, rfl⟩ : ∃ f, fuel = f + 2 := ⟨fuel - 2, by omega⟩
  cases v with
  | null => rw [write, List.singleton_append, readValue]; rfl
  | bool b => cases b <;> (rw [write, List.singleton_append, readValue]; rfl)
  | int n => exact readValue_writeInteger n rest
  | float x => exact readValue_float x rest
  | text s => exact readValue_writeText rest hfits
  | list items =>
      have hhead := List.length_pos_of_ne_nil (listHead_ne_nil items.length)
      rw [write, List.length_append] at hfuel
      rw [write, List.append_assoc]
      refine readValue_listHead hfits.1 fun f hf => ?_
      exact readItems_writeItems hfits.2 (by omega)
  | object entries =>
      have hhead := List.length_pos_of_ne_nil (objectHead_ne_nil entries.length)
      rw [write, List.length_append] at hfuel
      rw [write, List.append_assoc]
      refine readValue_objectHead hfits.1 fun f hf => ?_
      exact readEntries_writeEntries hfits.2 (by omega)

/-- Items are read back with three units of fuel for every byte. -/
theorem readItems_writeItems {items : List Value} (hfits : ListFits items)
    {fuel : Nat} {rest : List UInt8}
    (hfuel : 3 * (writeItems items).length < fuel) :
    readItems fuel items.length (writeItems items ++ rest)
      = (Value.outlines items, rest) := by
  obtain ⟨fuel, rfl⟩ : ∃ f, fuel = f + 1 := ⟨fuel - 1, by omega⟩
  cases items with
  | nil => rw [writeItems, List.length_nil, readItems]; rfl
  | cons v items =>
      have hpos := List.length_pos_of_ne_nil (write_ne_nil v)
      rw [writeItems, List.length_append] at hfuel
      rw [writeItems, List.append_assoc]
      exact readItems_succ
        (List.append_ne_nil_of_left_ne_nil (write_ne_nil v) _)
        (readValue_write hfits.1 (by omega))
        (readItems_writeItems hfits.2 (by omega))

/-- Entries are read back with three units of fuel for every byte. -/
theorem readEntries_writeEntries {entries : List (String × Value)}
    (hfits : EntriesFits entries) {fuel : Nat} {rest : List UInt8}
    (hfuel : 3 * (writeEntries entries).length < fuel) :
    readEntries fuel entries.length (writeEntries entries ++ rest)
      = (Value.outlineEntries entries, rest) := by
  obtain ⟨fuel, rfl⟩ : ∃ f, fuel = f + 1 := ⟨fuel - 1, by omega⟩
  match entries with
  | [] => rw [writeEntries, List.length_nil, readEntries]; rfl
  | (key, v) :: entries =>
      have hkey := List.length_pos_of_ne_nil (writeText_ne_nil key)
      have hpos := List.length_pos_of_ne_nil (write_ne_nil v)
      rw [writeEntries, List.length_append, List.length_append] at hfuel
      obtain ⟨fuel, rfl⟩ : ∃ f, fuel = f + 1 := ⟨fuel - 1, by omega⟩
      rw [writeEntries, List.append_assoc, List.append_assoc]
      exact readEntries_succ
        (List.append_ne_nil_of_left_ne_nil (writeText_ne_nil key) _)
        (readValue_writeText _ hfits.1)
        (readValue_write hfits.2.1 (by omega))
        (readEntries_writeEntries hfits.2.2 (by omega))

end

/-- The bytes of a value have the outline of the value. -/
theorem outline_write {v : Value} (hfits : Fits v) :
    outline (write v) = v.outline := by
  have hread : readValue (3 * (write v).length + 3) (write v ++ [])
      = (v.outline, []) := readValue_write hfits (Nat.le_add_right ..)
  rw [List.append_nil] at hread
  rw [outline, hread]

/-- What is read from the outline of a value is read from its bytes. -/
theorem decode_write {α : Type} {read : Outline → Except DecodeError α}
    {v : Value} {a : α} (hfits : Fits v) (h : read v.outline = .ok a) :
    decode read (write v) = .ok a := by
  rw [decode, outline_write hfits, h]

/-- What was decoded was read from the outline. -/
theorem read_of_decode {α : Type} {read : Outline → Except DecodeError α}
    {bs : List UInt8} {a : α} (h : decode read bs = .ok a) :
    read (outline bs) = .ok a := by
  unfold decode at h
  split at h
  case h_1 v hv =>
    obtain rfl := Except.ok.inj h
    exact hv
  case h_2 => cases h

end DeviceTwin.MsgPack
