/-
Addresses are read back as they are written.

Identifiers, paths, signal types and topics are texts with marks between
their parts. Each of them can be cut again where it was put together as
long as no part holds the mark: for identifiers and paths their types see
to that, for signal types the words in front of the name, and for topics
it is a condition of its own (`Topic.Proper`), which every topic that was
read fulfils. A topic with a mark inside of a part is not taken for another
one: its text is not read at all (`Topic.unmoved_of_parse_text`).

The type of a response is that of its command with another criterion. Every
occurrence is exchanged, also one in the name, and then the text is never the
same again, because the new criterion is the longer one
(`Text.substitute_eq_self_iff`).
-/
import DeviceTwin.Pointer
import DeviceTwin.SignalType
import DeviceTwin.Topic

namespace DeviceTwin

-- =================================================================== cutting

namespace Text

variable {sep : Char} {before after : List Char}

/-- A text is cut at the first mark. -/
theorem cutAt?_append (h : sep ∉ before) :
    cutAt? sep (before ++ sep :: after) = some (before, after) := by
  induction before with
  | nil => simp [cutAt?]
  | cons c cs ih =>
      rw [List.mem_cons, not_or] at h
      rw [List.cons_append, cutAt?, if_neg (Ne.symm h.1), ih h.2]
      rfl

/-- A piece without the mark is not cut. -/
theorem splitAt_of_not_mem {piece : List Char} (h : sep ∉ piece) :
    splitAt sep piece = [piece] := by
  induction piece with
  | nil => rfl
  | cons c cs ih =>
      rw [List.mem_cons, not_or] at h
      rw [splitAt, if_neg (Ne.symm h.1), ih h.2]

/-- A piece without the mark is cut off at the first one. -/
theorem splitAt_append {piece rest : List Char} (h : sep ∉ piece) :
    splitAt sep (piece ++ sep :: rest) = piece :: splitAt sep rest := by
  induction piece with
  | nil => simp [splitAt]
  | cons c cs ih =>
      rw [List.mem_cons, not_or] at h
      rw [List.cons_append, splitAt, if_neg (Ne.symm h.1), ih h.2]

/-- Joined pieces are the first one and the others, each behind its mark. -/
theorem joinWith_cons (piece : List Char) (pieces : List (List Char)) :
    joinWith sep (piece :: pieces) = piece ++ pieces.flatMap (sep :: ·) := by
  induction pieces generalizing piece with
  | nil => simp [joinWith]
  | cons next pieces ih =>
      rw [show joinWith sep (piece :: next :: pieces)
          = piece ++ sep :: joinWith sep (next :: pieces) from rfl, ih]
      rfl

/-- Cutting undoes joining where no piece holds the mark. -/
theorem splitAt_joinWith {pieces : List (List Char)} (hne : pieces ≠ [])
    (h : ∀ piece ∈ pieces, sep ∉ piece) :
    splitAt sep (joinWith sep pieces) = pieces := by
  induction pieces with
  | nil => exact absurd rfl hne
  | cons piece pieces ih =>
      have hpiece := h piece List.mem_cons_self
      cases pieces with
      | nil => exact splitAt_of_not_mem hpiece
      | cons next pieces =>
          show splitAt sep (piece ++ sep :: joinWith sep (next :: pieces)) = _
          rw [splitAt_append hpiece, ih (List.cons_ne_nil _ _)
              fun p hp => h p (List.mem_cons_of_mem _ hp)]

/-- At a mark a text is cut, whatever is around it. -/
theorem splitAt_append_cons (piece rest : List Char) :
    splitAt sep (piece ++ sep :: rest) = splitAt sep piece ++ splitAt sep rest := by
  induction piece with
  | nil => simp [splitAt]
  | cons c cs ih =>
      by_cases hc : c = sep
      · simp [splitAt, hc, ih]
      · rw [List.cons_append, splitAt, splitAt, if_neg hc, if_neg hc, ih]
        cases hcs : splitAt sep cs with
        | nil => exact absurd hcs (splitAt_ne_nil sep cs)
        | cons first others => rfl

/-- Cutting what was joined cuts every piece. -/
theorem splitAt_joinWith_flatMap {pieces : List (List Char)} (hne : pieces ≠ []) :
    splitAt sep (joinWith sep pieces) = pieces.flatMap (splitAt sep) := by
  induction pieces with
  | nil => exact absurd rfl hne
  | cons piece pieces ih =>
      cases pieces with
      | nil => simp [joinWith]
      | cons next pieces =>
          show splitAt sep (piece ++ sep :: joinWith sep (next :: pieces)) = _
          rw [splitAt_append_cons, ih (List.cons_ne_nil _ _)]
          rfl

section exchanging

variable {old new : List Char} {c : Char}

/-- The rest of an occurrence is passed over. -/
theorem substituteFrom_length (old new passed cs : List Char) :
    substituteFrom old new passed.length (passed ++ cs) = substituteFrom old new 0 cs := by
  induction passed with
  | nil => rfl
  | cons c passed ih => exact ih

/-- Where no occurrence can start nothing is exchanged. -/
theorem substitute_append_of_not_mem {front : List Char} (h : c ∉ front) (cs : List Char) :
    substitute (c :: old) new (front ++ cs) = front ++ substitute (c :: old) new cs := by
  induction front with
  | nil => rfl
  | cons d front ih =>
      rw [List.mem_cons, not_or] at h
      have hstart : (c :: old).isPrefixOf (d :: (front ++ cs)) = false := by
        rw [List.isPrefixOf_cons_cons, beq_eq_false_iff_ne.mpr h.1]
        rfl
      have hrest := ih h.2
      unfold substitute at hrest ⊢
      rw [List.cons_append, substituteFrom]
      simp only [hstart, hrest]
      rfl

/-- An occurrence in front is exchanged. -/
theorem substitute_append_self (c : Char) (old new cs : List Char) :
    substitute (c :: old) new (c :: old ++ cs) = new ++ substitute (c :: old) new cs := by
  have hstart : (c :: old).isPrefixOf (c :: (old ++ cs)) = true := by
    rw [← List.cons_append]
    exact List.isPrefixOf_iff_prefix.mpr (List.prefix_append _ _)
  unfold substitute
  rw [List.cons_append, substituteFrom]
  simp only [hstart, if_true]
  exact congrArg (new ++ ·) (substituteFrom_length _ _ old cs)

/-- Exchanging brings in no characters but those of the new text. -/
theorem mem_substituteFrom {cs : List Char} :
    ∀ {skip : Nat}, c ∈ substituteFrom old new skip cs → c ∈ new ∨ c ∈ cs := by
  induction cs with
  | nil =>
      intro skip h
      exact .inr h
  | cons d cs ih =>
      intro skip h
      have hlater : ∀ {k : Nat}, c ∈ substituteFrom old new k cs → c ∈ new ∨ c ∈ d :: cs :=
        fun h => (ih h).imp_right (List.mem_cons_of_mem _)
      cases skip with
      | succ skip => exact hlater h
      | zero =>
          rw [substituteFrom] at h
          split at h
          · rcases List.mem_append.mp h with h | h
            · exact .inl h
            · exact hlater h
          · rcases List.mem_cons.mp h with rfl | h
            · exact .inr List.mem_cons_self
            · exact hlater h

/-- A text does not get shorter by exchanging, but for what is passed over. -/
theorem length_le_substituteFrom (h : old.length < new.length) (cs : List Char) :
    ∀ skip, cs.length ≤ skip + (substituteFrom old new skip cs).length := by
  induction cs with
  | nil => exact fun _ => Nat.zero_le _
  | cons c cs ih =>
      intro skip
      cases skip with
      | succ skip =>
          have hrest := ih skip
          rw [substituteFrom, List.length_cons]
          omega
      | zero =>
          rw [substituteFrom]
          split
          · have hrest := ih (old.length - 1)
            rw [List.length_append, List.length_cons]
            omega
          · have hrest := ih 0
            rw [List.length_cons, List.length_cons]
            omega

/-- It gets longer if something is exchanged. -/
theorem length_lt_substitute (h : old.length < new.length) (hne : old ≠ []) {cs : List Char}
    (hoccurs : old <:+: cs) : cs.length < (substitute old new cs).length := by
  unfold substitute
  induction cs with
  | nil => exact absurd (List.infix_nil.mp hoccurs) hne
  | cons c cs ih =>
      rw [substituteFrom]
      split
      case isTrue =>
        have hpos := List.length_pos_iff.mpr hne
        have hrest := length_le_substituteFrom h cs (old.length - 1)
        rw [List.length_append, List.length_cons]
        omega
      case isFalse hstart =>
        rcases List.infix_cons_iff.mp hoccurs with hfront | hlater
        · exact absurd (List.isPrefixOf_iff_prefix.mpr hfront) hstart
        · have hrest := ih hlater
          rw [List.length_cons, List.length_cons]
          omega

/-- Nothing is exchanged where nothing occurs. -/
theorem substitute_of_not_infix {cs : List Char} (h : ¬ old <:+: cs) :
    substitute old new cs = cs := by
  unfold substitute
  induction cs with
  | nil => rfl
  | cons c cs ih =>
      rw [List.infix_cons_iff, not_or] at h
      have hstart : old.isPrefixOf (c :: cs) = false := by
        rw [Bool.eq_false_iff, ne_eq, List.isPrefixOf_iff_prefix]
        exact h.1
      rw [substituteFrom]
      simp only [hstart, Bool.false_eq_true, if_false]
      rw [ih h.2]

/-- A text stays the same exactly if nothing is exchanged in it. -/
theorem substitute_eq_self_iff (h : old.length < new.length) (hne : old ≠ []) {cs : List Char} :
    substitute old new cs = cs ↔ ¬ old <:+: cs := by
  refine ⟨fun hsame hoccurs => ?_, substitute_of_not_infix⟩
  have hlonger := length_lt_substitute h hne hoccurs
  rw [hsame] at hlonger
  exact Nat.lt_irrefl _ hlonger

end exchanging

end Text

-- =============================================================== identifiers

namespace EntityId

/-- An id is that of its parts. -/
theorem ofParts?_parts (id : EntityId) :
    ofParts? id.ns id.name = some id :=
  dif_pos ⟨id.name_ne_empty, id.ns_colon_free⟩

/-- And no id is of other parts than its own. -/
theorem eq_of_ofParts? {ns name : String} {id : EntityId}
    (h : ofParts? ns name = some id) : id.ns = ns ∧ id.name = name := by
  unfold ofParts? at h
  split at h
  · obtain rfl := Option.some.inj h
    exact ⟨rfl, rfl⟩
  · cases h

/-- The text of an id is its namespace and its name, with a colon between them. -/
theorem toList_text (id : EntityId) :
    id.text.toList = id.ns.toList ++ ':' :: id.name.toList := by
  simp [text, textOf]

/-- An identifier is read back as it is written. -/
theorem parse?_text (id : EntityId) : parse? id.text = some id := by
  rw [parse?, toList_text, Text.cutAt?_append id.ns_colon_free]
  simp only [String.ofList_toList]
  exact id.ofParts?_parts

end EntityId

-- ===================================================================== paths

namespace Pointer

/-- Between its slashes a path has its segments, after an empty piece. -/
theorem splitAt_segments (p : Pointer) :
    Text.splitAt '/' (p.segments.flatMap fun s => '/' :: s.toList)
      = [] :: p.segments.map String.toList := by
  have hjoined : (p.segments.flatMap fun s => '/' :: s.toList)
      = Text.joinWith '/' ([] :: p.segments.map String.toList) := by
    rw [Text.joinWith_cons, List.flatMap_map]
    rfl
  rw [hjoined, Text.splitAt_joinWith (List.cons_ne_nil _ _)]
  intro piece hpiece
  rcases List.mem_cons.mp hpiece with rfl | hmem
  · exact List.not_mem_nil
  · obtain ⟨s, hs, rfl⟩ := List.mem_map.mp hmem
    exact (p.proper s hs).2

/-- A path is read back as it is written. -/
theorem parse_text (p : Pointer) : parse p.text = p := by
  have hpieces : pieces p.text = p.segments := by
    unfold pieces text
    split
    case isTrue hempty =>
      rw [List.isEmpty_iff.mp hempty]
      rfl
    case isFalse =>
      have hkept : ∀ cs ∈ p.segments.map String.toList, decide (cs ≠ []) = true := by
        intro cs hcs
        obtain ⟨s, hs, rfl⟩ := List.mem_map.mp hcs
        simpa using (p.proper s hs).1
      rw [String.toList_ofList, p.splitAt_segments,
        List.filter_cons_of_neg (by simp), List.filter_eq_self.mpr hkept,
        List.map_map]
      simp
  cases p
  simp only [parse, hpieces]

end Pointer

-- ============================================================== signal types

namespace SignalType

/-- The text of a type is its group, its criterion and its name. -/
theorem toList_ofParts (g : Group) (criterion name : String) :
    (ofParts g criterion name).toList
      = g.name.toList ++ '.' :: (criterion.toList ++ ':' :: name.toList) := by
  simp [ofParts]

/-- The group of a type is read back. -/
theorem group?_ofParts (g : Group) (criterion name : String) :
    group? (ofParts g criterion name) = some g := by
  have hpoint : '.' ∉ g.name.toList := by cases g <;> decide
  rw [group?, toList_ofParts, Text.cutAt?_append hpoint]
  simp

/-- The name in a type is read back. -/
theorem shortName_ofParts (g : Group) {criterion : String} (name : String)
    (hcriterion : ':' ∉ criterion.toList) :
    shortName (ofParts g criterion name) = name := by
  have hgroup : ':' ∉ g.name.toList := by cases g <;> decide
  have hcolon : ':' ∉ g.name.toList ++ '.' :: criterion.toList := by
    simp [hgroup, hcriterion]
  have htext := toList_ofParts g criterion name
  rw [← List.cons_append, ← List.append_assoc] at htext
  rw [shortName, htext, Text.cutAt?_append hcolon]
  simp

/-- The name in the type of the response to a command of this name. -/
def responseName (name : String) : String :=
  String.ofList (Text.substitute ".commands".toList ".responses".toList name.toList)

/-- The type of a response has the criterion of responses, whatever else is
exchanged in the name. -/
theorem response_ofParts (g : Group) (name : String) :
    response (ofParts g "commands" name) = ofParts g "responses" (responseName name) := by
  have hgroup : '.' ∉ g.name.toList := by cases g <;> decide
  have hcolon : '.' ∉ [':'] := by decide
  have htext : (ofParts g "commands" name).toList
      = g.name.toList ++ (".commands".toList ++ ([':'] ++ name.toList)) := by
    rw [toList_ofParts]
    rfl
  have hresponse : (response (ofParts g "commands" name)).toList
      = Text.substitute ('.' :: "commands".toList) ".responses".toList
        (ofParts g "commands" name).toList := String.toList_ofList
  have hname : (responseName name).toList
      = Text.substitute ('.' :: "commands".toList) ".responses".toList name.toList :=
    String.toList_ofList
  have hold : ".commands".toList = '.' :: "commands".toList := rfl
  apply String.toList_inj.mp
  rw [hresponse, htext, hold, Text.substitute_append_of_not_mem hgroup,
    Text.substitute_append_self, Text.substitute_append_of_not_mem hcolon, ← hname,
    toList_ofParts]
  rfl

/-- A type is its own type of responses exactly if the criterion of commands does
not occur in it. -/
theorem response_eq_self_iff {type : String} :
    response type = type ↔ ¬ ".commands".toList <:+: type.toList := by
  have hlonger : ".commands".toList.length < ".responses".toList.length := by decide
  rw [← Text.substitute_eq_self_iff hlonger (by decide), ← String.toList_inj, response,
    String.toList_ofList]

/-- A response keeps the name of its command exactly if the criterion of commands
does not occur in it. -/
theorem responseName_eq_self_iff {name : String} :
    responseName name = name ↔ ¬ ".commands".toList <:+: name.toList :=
  response_eq_self_iff

/-- The name of a response holds no slash if that of the command does not. -/
theorem slash_not_mem_responseName {name : String} (h : '/' ∉ name.toList) :
    '/' ∉ (responseName name).toList := by
  rw [responseName, String.toList_ofList]
  intro hmem
  rcases Text.mem_substituteFrom hmem with hnew | hold
  · exact absurd hnew (by decide)
  · exact h hold

end SignalType

-- ==================================================================== topics

namespace Topic

/-- A topic whose parts hold no slash, whose namespace is not the one that
stands for the empty one, and which names no channel unless it is about a
thing. -/
structure Proper (t : Topic) : Prop where
  ns : '/' ∉ t.entity.ns.toList
  ns_ne : t.entity.ns ≠ emptyNamespace
  name : '/' ∉ t.entity.name.toList
  action : ∀ a ∈ t.action, '/' ∉ a.toList
  channel : t.group = .policies → t.channel = .none

/-- The namespace as it is written. -/
def nsText (t : Topic) : String :=
  if t.entity.ns = "" then emptyNamespace else t.entity.ns

/-- The namespace that is written is read back. -/
theorem Proper.nsText_eq {t : Topic} (h : t.Proper) :
    (if t.nsText = emptyNamespace then "" else t.nsText) = t.entity.ns := by
  unfold nsText
  split
  case isTrue hempty => rw [if_pos rfl, hempty]
  case isFalse => rw [if_neg h.ns_ne]

/-- No segment of a proper topic holds a slash. -/
theorem Proper.not_mem_segments {t : Topic} (h : t.Proper) :
    ∀ s ∈ t.segments, '/' ∉ s.toList := by
  have hns : '/' ∉ t.nsText.toList := by
    unfold nsText
    split
    · decide
    · exact h.ns
  have hgroup : '/' ∉ t.group.name.toList := by
    cases t.group <;> decide
  have hchannel : '/' ∉ t.channel.name.toList := by
    cases t.channel <;> decide
  have hcriterion : '/' ∉ t.criterion.name.toList := by
    cases t.criterion <;> decide
  intro s hs
  unfold segments at hs
  simp only [List.mem_append, List.mem_cons, List.not_mem_nil, or_false,
    Option.mem_toList] at hs
  obtain ((((rfl | rfl | rfl) | hs) | rfl) | hs) := hs
  · exact hns
  · exact h.name
  · exact hgroup
  · cases hg : t.group with
    | things =>
        rw [hg] at hs
        rw [List.mem_singleton.mp hs]
        exact hchannel
    | policies =>
        rw [hg] at hs
        cases hs
  · exact hcriterion
  · exact h.action s hs

/-- The channel of a proper topic is read, of a thing from its segment. -/
theorem Proper.exists_segments {t : Topic} (h : t.Proper)
    (fail : TopicFault → TopicError) :
    ∃ rest, t.segments = t.nsText :: t.entity.name :: t.group.name :: rest
      ∧ parseChannel fail t.group rest
        = .ok (t.channel, t.criterion.name :: t.action.toList) := by
  cases hg : t.group with
  | things =>
      exact ⟨t.channel.name :: t.criterion.name :: t.action.toList,
        by simp [segments, nsText, hg], by simp [parseChannel]⟩
  | policies =>
      exact ⟨t.criterion.name :: t.action.toList,
        by simp [segments, nsText, hg], by simp [parseChannel, h.channel hg]⟩

/-- The segments of a proper topic are read. -/
theorem Proper.ofSegments_segments {t : Topic} (h : t.Proper)
    (fail : TopicFault → TopicError) : ofSegments fail t.segments = .ok t := by
  obtain ⟨rest, hsegments, hchannel⟩ := h.exists_segments fail
  have hrest : parseRest fail (t.criterion.name :: t.action.toList)
      = .ok (t.criterion, t.action) := by
    cases t.action <;> simp [parseRest]
  have hentity : EntityId.ofParts?
      (if t.nsText = emptyNamespace then "" else t.nsText) t.entity.name
        = some t.entity := by
    rw [h.nsText_eq]
    exact t.entity.ofParts?_parts
  rw [hsegments]
  simp only [ofSegments, Group.ofName?_name, bind, Except.bind, hchannel,
    hrest, hentity]

/-- A proper topic is read back as it is written. -/
theorem Proper.parse_text {t : Topic} (h : t.Proper) :
    parse t.text = .ok t := by
  have hpieces : ∀ piece ∈ t.segments.map String.toList, '/' ∉ piece := by
    intro piece hpiece
    obtain ⟨s, hs, rfl⟩ := List.mem_map.mp hpiece
    exact h.not_mem_segments s hs
  have hsegments : (Text.splitAt '/' t.text.toList).map String.ofList
      = t.segments := by
    rw [text, String.toList_ofList,
      Text.splitAt_joinWith (by simp [segments]) hpieces, List.map_map]
    simp
  rw [parse, hsegments]
  exact h.ofSegments_segments _

/-- What `parseChannel` reads: for policies no channel and nothing of the
text, for things the channel in the first segment. -/
theorem parseChannel_eq_ok {fail : TopicFault → TopicError} {g : Group}
    {segments rest : List String} {c : Channel}
    (h : parseChannel fail g segments = .ok (c, rest)) :
    (g = .policies ∧ c = .none ∧ rest = segments)
    ∨ (g = .things ∧ segments = c.name :: rest) := by
  cases g with
  | policies =>
      obtain ⟨rfl, rfl⟩ := Prod.mk.inj (Except.ok.inj h)
      exact .inl ⟨rfl, rfl, rfl⟩
  | things =>
      cases segments with
      | nil => cases h
      | cons channel others =>
          simp only [parseChannel] at h
          split at h
          case h_1 c' hname =>
            obtain ⟨rfl, rfl⟩ := Prod.mk.inj (Except.ok.inj h)
            exact .inr ⟨rfl, by rw [Channel.name_of_ofName? hname]⟩
          case h_2 => cases h

/-- What `parseRest` reads: a criterion, and an action if one more segment is
there. -/
theorem parseRest_eq_ok {fail : TopicFault → TopicError}
    {segments : List String} {c : Criterion} {action : Option String}
    (h : parseRest fail segments = .ok (c, action)) :
    segments = c.name :: action.toList := by
  match segments, h with
  | [_], h =>
      simp only [parseRest] at h
      split at h
      case h_1 hname =>
        obtain ⟨rfl, rfl⟩ := Prod.mk.inj (Except.ok.inj h)
        rw [Criterion.name_of_ofName? hname]
        rfl
      case h_2 => cases h
  | [_, _], h =>
      simp only [parseRest] at h
      split at h
      case h_1 hname =>
        obtain ⟨rfl, rfl⟩ := Prod.mk.inj (Except.ok.inj h)
        rw [Criterion.name_of_ofName? hname]
        rfl
      case h_2 => cases h

/-- What the segments of a topic are. -/
theorem ofSegments_eq_ok {fail : TopicFault → TopicError}
    {segments : List String} {t : Topic}
    (h : ofSegments fail segments = .ok t) :
    ∃ ns name group rest others,
      segments = ns :: name :: group :: rest
      ∧ Group.ofName? group = some t.group
      ∧ parseChannel fail t.group rest = .ok (t.channel, others)
      ∧ parseRest fail others = .ok (t.criterion, t.action)
      ∧ EntityId.ofParts? (if ns = emptyNamespace then "" else ns) name
        = some t.entity := by
  unfold ofSegments at h
  split at h
  case h_2 => cases h
  case h_1 ns name group rest =>
    simp only [bind, Except.bind] at h
    split at h
    case h_2 => cases h
    case h_1 hgroup =>
      split at h
      · cases h
      · rename_i hchannel
        split at h
        · cases h
        · rename_i hcriterion
          split at h
          · rename_i hentity
            obtain rfl := Except.ok.inj h
            exact ⟨ns, name, group, rest, _, rfl, hgroup, hchannel,
              hcriterion, hentity⟩
          · cases h

/-- Every topic that was read is proper. -/
theorem proper_of_parse {s : String} {t : Topic} (h : parse s = .ok t) :
    t.Proper := by
  have hpieces : ∀ piece ∈ (Text.splitAt '/' s.toList).map String.ofList,
      '/' ∉ piece.toList := by
    intro piece hpiece
    obtain ⟨cs, hcs, rfl⟩ := List.mem_map.mp hpiece
    simpa using Text.not_mem_of_mem_splitAt hcs
  obtain ⟨ns, name, group, rest, others, hsegments, -, hchannel, hrest,
    hentity⟩ := ofSegments_eq_ok h
  obtain ⟨hns, hname⟩ := EntityId.eq_of_ofParts? hentity
  have hothers : ∀ s ∈ others, s ∈ rest := by
    rcases parseChannel_eq_ok hchannel with ⟨-, -, rfl⟩ | ⟨-, rfl⟩
    · exact fun _ hs => hs
    · exact fun _ hs => List.mem_cons_of_mem _ hs
  rw [hsegments] at hpieces
  refine ⟨?_, ?_, ?_, fun a ha => ?_, fun hpolicies => ?_⟩
  · rw [hns]
    split
    · exact List.not_mem_nil
    · exact hpieces ns (by simp)
  · rw [hns]
    split
    case isTrue => decide
    case isFalse hne => exact hne
  · rw [hname]
    exact hpieces name (by simp)
  · have haction : a ∈ others := by
      rw [parseRest_eq_ok hrest]
      exact List.mem_cons_of_mem _ (Option.mem_toList.mpr ha)
    have hmem := hothers a haction
    exact hpieces a (by simp [hmem])
  · rcases parseChannel_eq_ok hchannel with ⟨-, hnone, -⟩ | ⟨hthings, -⟩
    · exact hnone
    · rw [hpolicies] at hthings
      cases hthings

/-- The pieces of a text between its slashes. -/
def cut (s : String) : List String := (Text.splitAt '/' s.toList).map String.ofList

/-- Even an empty text is one piece. -/
theorem cut_ne_nil (s : String) : cut s ≠ [] := by
  intro h
  exact Text.splitAt_ne_nil '/' s.toList (List.map_eq_nil_iff.mp h)

/-- A text without slashes is not cut. -/
theorem cut_of_not_mem {s : String} (h : '/' ∉ s.toList) : cut s = [s] := by
  rw [cut, Text.splitAt_of_not_mem h]
  simp

/-- The text of any topic is cut into the pieces of its segments. -/
theorem cut_text (t : Topic) : cut t.text = t.segments.flatMap cut := by
  rw [cut, text, String.toList_ofList,
    Text.splitAt_joinWith_flatMap (by simp [segments]), List.flatMap_map, List.map_flatMap]
  rfl

/-- A text that is cut into one piece holds no slash. -/
theorem slash_not_mem_of_cut {s piece : String} (h : cut s = [piece]) : '/' ∉ s.toList := by
  obtain ⟨cs, hcs, -⟩ := List.map_eq_singleton_iff.mp h
  have hwhole := Text.joinWith_splitAt '/' s.toList
  rw [hcs] at hwhole
  change cs = s.toList at hwhole
  rw [← hwhole]
  exact Text.not_mem_of_mem_splitAt (hcs ▸ List.mem_singleton_self cs)

/-- Nor does one that is cut into no more than one. -/
theorem slash_not_mem_of_length_cut {s : String} (h : (cut s).length ≤ 1) :
    '/' ∉ s.toList := by
  have hpos := List.length_pos_iff.mpr (cut_ne_nil s)
  obtain ⟨piece, hpiece⟩ := List.length_eq_one_iff.mp (Nat.le_antisymm h hpos)
  exact slash_not_mem_of_cut hpiece

/-- The segments behind the group. -/
def back (t : Topic) : List String :=
  (match t.group with | .things => [t.channel.name] | .policies => [])
    ++ t.criterion.name :: t.action.toList

/-- A topic is its entity, its group and the segments behind it. -/
theorem segments_eq (t : Topic) :
    t.segments = t.nsText :: t.entity.name :: t.group.name :: t.back := by
  unfold segments back nsText
  cases t.group <;> rfl

/-- The words behind the group hold no slashes, so only the action can be cut. -/
theorem flatMap_cut_back (t : Topic) :
    t.back.flatMap cut
      = (match t.group with | .things => [t.channel.name] | .policies => [])
        ++ t.criterion.name :: t.action.toList.flatMap cut := by
  have hchannel : cut t.channel.name = [t.channel.name] := by
    cases t.channel <;> exact cut_of_not_mem (by decide)
  have hcriterion : cut t.criterion.name = [t.criterion.name] := by
    cases t.criterion <;> exact cut_of_not_mem (by decide)
  unfold back
  cases t.group <;> simp [hchannel, hcriterion]

/-- The text of a topic is cut into the pieces of its entity, the group, and the pieces
behind it. -/
theorem cut_text_eq (t : Topic) :
    cut t.text
      = (cut t.nsText ++ cut t.entity.name) ++ t.group.name :: t.back.flatMap cut := by
  have hgroup : cut t.group.name = [t.group.name] := by
    cases t.group <;> exact cut_of_not_mem (by decide)
  rw [cut_text, segments_eq]
  simp [hgroup]

/-- The word for a group is neither that for a channel nor that for a
criterion. -/
theorem group_name_apart (g : Group) (c : Channel) (criterion : Criterion) :
    g.name ≠ c.name ∧ g.name ≠ criterion.name := by
  cases g <;> cases c <;> cases criterion <;> decide

/-- What is read as criterion and action does not have the word for a group
with anything behind it. -/
theorem parseRest_group {fail : TopicFault → TopicError} {front behind : List String}
    {g : Group} (hbehind : behind ≠ []) (r : Criterion × Option String) :
    parseRest fail (front ++ g.name :: behind) ≠ .ok r := by
  intro h
  have hread := parseRest_eq_ok h
  have hpos := List.length_pos_iff.mpr hbehind
  have hshort : r.2.toList.length ≤ 1 := by
    cases r.2 <;> simp
  cases front with
  | nil => exact (group_name_apart g .none r.1).2 (List.cons.inj hread).1
  | cons x front =>
      have hlength := congrArg List.length hread
      simp only [List.cons_append, List.length_cons, List.length_append] at hlength
      omega

/-- In front of the group stand two pieces at least. -/
theorem exists_front (t : Topic) :
    ∃ x y more, cut t.nsText ++ cut t.entity.name = x :: y :: more := by
  obtain ⟨x, xs, hx⟩ := List.exists_cons_of_ne_nil (cut_ne_nil t.nsText)
  obtain ⟨y, ys, hy⟩ := List.exists_cons_of_ne_nil (cut_ne_nil t.entity.name)
  rw [hx, hy]
  cases xs with
  | nil => exact ⟨x, y, ys, rfl⟩
  | cons x' xs => exact ⟨x, x', xs ++ y :: ys, rfl⟩

/-- If the text of a topic is read, two pieces stand in front of the group. The
words for the group, the channel and the criterion stand next to each other, so
any further piece in front of them puts another word in the place of one. -/
theorem length_front_of_parse_text {t t' : Topic} (h : parse t.text = .ok t') :
    (cut t.nsText ++ cut t.entity.name).length = 2
    ∧ ∃ others, Group.ofName? t.group.name = some t'.group
      ∧ parseChannel (.segments t.text) t'.group (t.back.flatMap cut)
        = .ok (t'.channel, others)
      ∧ parseRest (.segments t.text) others = .ok (t'.criterion, t'.action) := by
  obtain ⟨ns, name, group, rest, others, hsegments, hgroup, hchannel, hrest, -⟩ :=
    ofSegments_eq_ok h
  have hbehind : t.back.flatMap cut ≠ [] := by
    rw [flatMap_cut_back]
    simp
  obtain ⟨x, y, more, hfront⟩ := t.exists_front
  change cut t.text = _ at hsegments
  rw [cut_text_eq, hfront] at hsegments
  simp only [List.cons_append, List.cons.injEq] at hsegments
  obtain ⟨-, -, hsegments⟩ := hsegments
  cases more with
  | nil =>
      obtain ⟨rfl, rfl⟩ := List.cons.inj hsegments
      exact ⟨by rw [hfront]; rfl, others, hgroup, hchannel, hrest⟩
  | cons z more =>
      -- by how many pieces the words are moved back
      obtain ⟨-, rfl⟩ := List.cons.inj hsegments
      rcases parseChannel_eq_ok hchannel with ⟨-, -, rfl⟩ | ⟨-, hmoved⟩
      · exact absurd hrest (parseRest_group hbehind _)
      · cases more with
        | nil => exact absurd (List.cons.inj hmoved).1 (group_name_apart _ _ .acks).1
        | cons w more =>
            obtain ⟨-, rfl⟩ := List.cons.inj hmoved
            exact absurd hrest (parseRest_group hbehind _)

/-- A topic that was read, and the one that was written: no part that was
written holds a slash, and the group and the channel are the same. -/
structure Unmoved (t t' : Topic) : Prop where
  ns : '/' ∉ t.nsText.toList
  name : '/' ∉ t.entity.name.toList
  action : ∀ a ∈ t.action, '/' ∉ a.toList
  group : t'.group = t.group
  channel : t.group = .things → t'.channel = t.channel

/-- No slashes in an identifier or an action make a topic another one: its text
is not read then. -/
theorem unmoved_of_parse_text {t t' : Topic} (h : parse t.text = .ok t') : Unmoved t t' := by
  obtain ⟨hlength, others, hgroup, hchannel, hrest⟩ := length_front_of_parse_text h
  have hsame : t'.group = t.group := by
    rw [Group.ofName?_name] at hgroup
    exact (Option.some.inj hgroup).symm
  have hns := List.length_pos_iff.mpr (cut_ne_nil t.nsText)
  have hname := List.length_pos_iff.mpr (cut_ne_nil t.entity.name)
  rw [List.length_append] at hlength
  -- what is behind the channel, as it was written and as it was read
  have hothers : others = t.criterion.name :: t.action.toList.flatMap cut
      ∧ (t.group = .things → t'.channel = t.channel) := by
    rw [flatMap_cut_back] at hchannel
    cases hg : t.group with
    | things =>
        rw [hsame, hg] at hchannel
        rcases parseChannel_eq_ok hchannel with ⟨hpolicies, -⟩ | ⟨-, hread⟩
        · cases hpolicies
        · obtain ⟨hword, rfl⟩ := List.cons.inj hread
          refine ⟨rfl, fun _ => ?_⟩
          have hback := Channel.ofName?_name t.channel
          rw [hword, Channel.ofName?_name] at hback
          exact Option.some.inj hback
    | policies =>
        rw [hsame, hg] at hchannel
        rcases parseChannel_eq_ok hchannel with ⟨-, -, rfl⟩ | ⟨hthings, -⟩
        · exact ⟨rfl, nofun⟩
        · cases hthings
  obtain ⟨rfl, hsameChannel⟩ := hothers
  refine ⟨slash_not_mem_of_length_cut (by omega), slash_not_mem_of_length_cut (by omega),
    fun a ha => ?_, hsame, hsameChannel⟩
  have hpieces := (List.cons.inj (parseRest_eq_ok hrest)).2
  rw [Option.mem_def.mp ha, Option.toList_some, List.flatMap_singleton] at hpieces
  apply slash_not_mem_of_length_cut
  rw [hpieces]
  cases t'.action <;> simp

/-- Nor do they make the criterion or the action another one. -/
theorem ends_of_parse_text {t t' : Topic} (h : parse t.text = .ok t') :
    t'.criterion = t.criterion ∧ t'.action = t.action := by
  have hunmoved := unmoved_of_parse_text h
  obtain ⟨-, others, -, hchannel, hrest⟩ := length_front_of_parse_text h
  have haction : t.action.toList.flatMap cut = t.action.toList := by
    cases ha : t.action with
    | none => rfl
    | some a => simp [cut_of_not_mem (hunmoved.action a ha)]
  -- behind the channel stands what was written there
  have hothers : others = t.criterion.name :: t.action.toList := by
    rw [flatMap_cut_back, haction] at hchannel
    rcases parseChannel_eq_ok hchannel with ⟨hpolicies, -, hread⟩ | ⟨hthings, hread⟩
    · rw [← hunmoved.group, hpolicies] at hread
      exact hread
    · rw [← hunmoved.group, hthings] at hread
      exact (List.cons.inj hread).2.symm
  have hsame := hothers.symm.trans (parseRest_eq_ok hrest)
  obtain ⟨hname, hactions⟩ := List.cons.inj hsame
  have hcriterion := Criterion.ofName?_name t.criterion
  rw [hname, Criterion.ofName?_name] at hcriterion
  have hhead := congrArg List.head? hactions
  rw [Option.head?_toList, Option.head?_toList] at hhead
  exact ⟨Option.some.inj hcriterion, hhead.symm⟩

/-- So no topic is read as live that is not. -/
theorem live_of_parse_text {t t' : Topic} (h : parse t.text = .ok t')
    (hlive : t'.channel = .live) : t.channel = .live := by
  have hunmoved := unmoved_of_parse_text h
  cases hg : t.group with
  | things => rw [← hunmoved.channel hg, hlive]
  | policies =>
      have hnone := (proper_of_parse h).channel (hunmoved.group.trans hg)
      rw [hlive] at hnone
      cases hnone

end Topic

end DeviceTwin
