/-
Remarks of the connection, and envelopes that are taken for one.

Two readers look at a text that arrives. The pump looks at its first character
behind the blanks and takes the text for a remark unless that is an opening
brace. The decoder reads the whole text and finds an envelope in an object or,
as any record may stand so, in a list of the fields. Both pass over blanks, the
decoder over fewer of them, but what it reads then never starts with a blank
(`Json.head?_trimStart`).

So the two agree on objects and on all that is no envelope, and they differ on
lists: an envelope in a list is passed over, even if a call waits for it
(`envelopes_are_offered_unless_lists`).
-/
import DeviceTwin.Proofs.Client.Pump

namespace DeviceTwin

-- ======================================================== the first character

namespace Json

/-- The blanks of JSON are blanks. -/
theorem isBlank_text {c : Char} (h : isBlank c = true) : Text.isBlank c = true := by
  simp only [isBlank, Bool.or_eq_true, beq_iff_eq] at h
  rcases h with ((rfl | rfl) | rfl) | rfl <;> decide

/-- Passing over more blanks stops at the same character if that is no blank. -/
theorem head?_trimStart {cs : List Char} {c : Char} (h : (skipBlanks cs).head? = some c)
    (hc : Text.isBlank c = false) : (Text.trimStart cs).head? = some c := by
  induction cs with
  | nil => cases h
  | cons d cs ih =>
      unfold skipBlanks Text.trimStart at *
      rw [List.dropWhile_cons] at h ⊢
      cases hd : isBlank d with
      | true =>
          rw [hd, if_pos rfl] at h
          rw [isBlank_text hd, if_pos rfl]
          exact ih h
      | false =>
          rw [hd] at h
          obtain rfl := Option.some.inj h
          rw [hc]
          rfl

/-- The bracket in front of a list or an object. -/
def bracket? : Outline → Option Char
  | .list _ => some '['
  | .object _ => some '\x7b'
  | .null | .bool _ | .int _ | .float _ | .notFinite | .text _ | .bytes _ | .unfit | .broken =>
      none

theorem bracket?_readText (cs : List Char) : bracket? (readText cs).1 = none := by
  unfold readText
  split
  · rfl
  · split <;> rfl

theorem bracket?_readNumber (cs : List Char) : bracket? (readNumber cs).1 = none := by
  unfold readNumber
  dsimp only
  split
  · rfl
  · split <;> rfl

theorem bracket?_readWord {o : Outline} (ho : bracket? o = none) (word cs : List Char) :
    bracket? (readWord word o cs).1 = none := by
  unfold readWord
  split
  · exact ho
  · rfl

/-- A list or an object is read behind its bracket, and behind nothing else. -/
theorem head?_of_readValue {fuel : Nat} {cs : List Char} {c : Char}
    (h : bracket? (readValue fuel cs).1 = some c) : (skipBlanks cs).head? = some c := by
  cases fuel with
  | zero => cases h
  | succ fuel =>
      rw [readValue] at h
      split at h
      case h_1 => rw [bracket?_readText] at h; cases h
      case h_2 hcs => rw [hcs]; exact h
      case h_3 hcs => rw [hcs]; exact h
      case h_4 => rw [bracket?_readWord rfl] at h; cases h
      case h_5 => rw [bracket?_readWord rfl] at h; cases h
      case h_6 => rw [bracket?_readWord rfl] at h; cases h
      case h_7 =>
        split at h
        · rw [bracket?_readNumber] at h
          cases h
        · cases h
      case h_8 => cases h

end Json

/-- A record stands as a list or as an object. -/
theorem Envelope.exists_bracket {m : Medium} {o : Outline} {e : Envelope}
    (h : decode m 0 o = .ok e) : (∃ items, o = .list items) ∨ ∃ entries, o = .object entries := by
  obtain ⟨_, hrecord, -⟩ := Result.bind_eq_ok.mp h
  cases o with
  | list items => exact .inl ⟨items, rfl⟩
  | object entries => exact .inr ⟨entries, rfl⟩
  | null | bool | int | float | notFinite | text | bytes | unfit | broken => cases hrecord

namespace Frame

/-- Whether a text holds a list. -/
def isListText : Frame → Bool
  | .text s => Json.bracket? (Json.outline s).1 == some '['
  | .binary _ => false

/-- The pump takes an envelope for a remark exactly if it is a text that holds a
list. -/
theorem isRemark_of_decode {f : Frame} {e : Envelope} (h : f.decode = .ok e) :
    f.isRemark = f.isListText := by
  cases f with
  | binary bytes => rfl
  | text s =>
      have hfirst : ∀ c, Text.isBlank c = false → Json.bracket? (Json.outline s).1 = some c →
          (Text.trimStart s.toList).head? = some c := by
        intro c hc hbracket
        have hread : Json.bracket? (Json.readValue (3 * s.toList.length + 3) s.toList).1
            = some c := hbracket
        exact Json.head?_trimStart (Json.head?_of_readValue hread) hc
      have hread : Envelope.decode .text 0 (Json.outline s).1 = .ok e := decode_eq_ok h
      show ((Text.trimStart s.toList).head? != some '\x7b')
        = (Json.bracket? (Json.outline s).1 == some '[')
      rcases Envelope.exists_bracket hread with ⟨items, ho⟩ | ⟨entries, ho⟩
      · have hbracket : Json.bracket? (Json.outline s).1 = some '[' :=
          congrArg Json.bracket? ho
        rw [hfirst _ (by decide) hbracket, hbracket]
        rfl
      · have hbracket : Json.bracket? (Json.outline s).1 = some '\x7b' :=
          congrArg Json.bracket? ho
        rw [hfirst _ (by decide) hbracket, hbracket]
        rfl

end Frame

-- ==================================================================== routing

namespace Client

variable {η : Type}

/-- What becomes of a frame that was offered to the calls: what they leave of it
goes on to the handlers or to the application. -/
def passOn : Client η × Except ProtocolError (Option Signal) → Client η × Routed η
  | (c, .ok none) => (c, .answered)
  | (c, .ok (some (.event e))) => (c, .event (c.registry.deliveries e))
  | (c, .ok (some s)) => (c.forward s, .unmatched s)
  | (c, .error e) => (c, .unreadable e)

theorem route_of_isRemark {f : Frame} (h : f.isRemark = true) (c : Client η) :
    c.route f = (c, .remark) := by
  unfold route
  rw [h, if_pos rfl]

theorem route_of_not_isRemark {f : Frame} (h : f.isRemark = false) (c : Client η) :
    c.route f = passOn (c.takeIn f) := by
  unfold route
  rw [h, if_neg Bool.false_ne_true]
  generalize c.takeIn f = taken
  obtain ⟨c, taken⟩ := taken
  cases taken with
  | error e => rfl
  | ok signal? =>
      cases signal? with
      | none => rfl
      | some s => cases s <;> rfl

/-- What was offered to the calls is no remark. -/
theorem passOn_ne_remark (taken : Client η × Except ProtocolError (Option Signal)) :
    (passOn taken).2 ≠ .remark := by
  obtain ⟨c, taken⟩ := taken
  cases taken with
  | error e => nofun
  | ok signal? =>
      cases signal? with
      | none => nofun
      | some s => cases s <;> nofun

/-- A frame that holds an envelope is offered to the calls, unless it is a text
that holds a list: this is passed over, and the client stays as it is. All else
that is passed over as a remark holds no envelope. -/
theorem envelopes_are_offered_unless_lists (c : Client η) (f : Frame) :
    (∀ e, f.decode = .ok e →
      (f.isListText = false → c.route f = passOn (c.takeIn f) ∧ (c.route f).2 ≠ .remark)
      ∧ (f.isListText = true → c.route f = (c, .remark)))
    ∧ ((c.route f).2 = .remark → f.isListText = true ∨ ∃ e, f.decode = .error e) := by
  refine ⟨fun e he => ⟨fun hlist => ?_, fun hlist => ?_⟩, fun hrouted => ?_⟩
  · have hroute := route_of_not_isRemark ((Frame.isRemark_of_decode he).trans hlist) c
    exact ⟨hroute, hroute ▸ passOn_ne_remark _⟩
  · exact route_of_isRemark ((Frame.isRemark_of_decode he).trans hlist) c
  · cases he : f.decode with
    | error e => exact .inr ⟨e, rfl⟩
    | ok e =>
        refine .inl ?_
        rw [← Frame.isRemark_of_decode he]
        by_contra hnot
        rw [route_of_not_isRemark (Bool.eq_false_iff.mpr hnot)] at hrouted
        exact passOn_ne_remark _ hrouted

/-- An order in an object is offered to the calls and left to the application. -/
theorem closingOrder_is_offered :
    (start {} : Client Unit).route (WireFormat.json.encode closingOrder)
      = passOn ((start {} : Client Unit).takeIn (WireFormat.json.encode closingOrder)) := by
  have hdecode : (WireFormat.json.encode closingOrder).decode = .ok closingOrder :=
    WireFormat.decode_flat ⟨by decide, by decide, by decide, by decide, by decide⟩ nofun
  have hlist : (WireFormat.json.encode closingOrder).isListText = false := by
    rw [← Frame.isRemark_of_decode hdecode]
    exact WireFormat.isRemark_encode _ _
  exact (((envelopes_are_offered_unless_lists _ _).1 _ hdecode).1 hlist).1

/-- The same order as a list of its fields, of which only the topic is there. -/
def listedOrder : Frame := .text "[\"garden/gate/things/live/commands/close\"]"

/-- It holds the envelope, and the calls would leave the command to the
application; but it is passed over. -/
theorem listedOrder_is_passed_over :
    listedOrder.decode = .ok closingOrder
    ∧ ((start {} : Client Unit).takeIn listedOrder).2 = .ok (some closeGate)
    ∧ (start {} : Client Unit).route listedOrder = (start {}, .remark) := by
  have hrecord : Envelope.decode .text 0 (Value.outline (.list [.text closingOrder.topic.text]))
      = .ok closingOrder := by rfl
  have hfloat : Value.FloatFree (.list [.text closingOrder.topic.text]) := ⟨trivial, trivial⟩
  have htext : listedOrder = .text (Json.text (.list [.text closingOrder.topic.text])) := by
    decide
  have hdecode : listedOrder.decode = .ok closingOrder := by
    rw [htext, Frame.decode, Json.decode_text hfloat hrecord]
    rfl
  have hconsistent : (start {} : Client Unit).Consistent := consistent_start {}
  have htaken := hconsistent.takeIn_eq hdecode rfl
  refine ⟨hdecode, ?_, route_of_isRemark (by decide) _⟩
  rw [htaken]
  rfl

end Client

end DeviceTwin
