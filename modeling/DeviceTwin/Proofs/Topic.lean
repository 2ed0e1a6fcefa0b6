/-
Which texts are topics, and which topics are read back.

Reading goes from left to right and stops at the first fault. What it accepts
can be said without it, of all pieces between the slashes at once
(`Grammatical`): the word for the group decides whether a word for a channel
follows, then comes the word for a criterion and at most one piece more. Two
conditions are on the identifier in front: its name is there, and its namespace
has no colon.

A topic that was read is written as the text that it was read from, but for an
empty namespace, which the text may leave out and the writer never does
(`filledIn`). In the other direction nothing is lost exactly if no part of the
topic holds a slash and its namespace is not the mark for the empty one
(`texts_are_topics_by_grammar`). A slash is never made up for by the other
parts: whatever was read has none, so a topic with one is not what its text is
read as.
-/
import DeviceTwin.Proofs.Addressee

namespace DeviceTwin.Topic

-- =================================================================== grammar

/-- What the pieces between the slashes of a topic are. -/
inductive Grammatical : List String → Prop
  | thing {ns name channel criterion : String} {action : Option String}
      (colonFree : ':' ∉ ns.toList) (named : name ≠ "")
      (routed : channel ∈ ["twin", "live", "none"])
      (sorted : criterion ∈ ["commands", "events", "errors", "acks"]) :
      Grammatical (ns :: name :: "things" :: channel :: criterion :: action.toList)
  | policy {ns name criterion : String} {action : Option String}
      (colonFree : ':' ∉ ns.toList) (named : name ≠ "")
      (sorted : criterion ∈ ["commands", "events", "errors", "acks"]) :
      Grammatical (ns :: name :: "policies" :: criterion :: action.toList)

/-- The words for channels are those that are read as one. -/
theorem mem_channels {s : String} :
    s ∈ ["twin", "live", "none"] ↔ ∃ c : Channel, Channel.ofName? s = some c := by
  constructor
  · simp only [List.mem_cons, List.not_mem_nil, or_false]
    rintro (rfl | rfl | rfl)
    · exact ⟨.twin, rfl⟩
    · exact ⟨.live, rfl⟩
    · exact ⟨.none, rfl⟩
  · rintro ⟨c, hc⟩
    rw [← Channel.name_of_ofName? hc]
    cases c <;> decide

/-- The words for criteria are those that are read as one. -/
theorem mem_criteria {s : String} :
    s ∈ ["commands", "events", "errors", "acks"]
      ↔ ∃ c : Criterion, Criterion.ofName? s = some c := by
  constructor
  · simp only [List.mem_cons, List.not_mem_nil, or_false]
    rintro (rfl | rfl | rfl | rfl)
    · exact ⟨.commands, rfl⟩
    · exact ⟨.events, rfl⟩
    · exact ⟨.errors, rfl⟩
    · exact ⟨.acks, rfl⟩
  · rintro ⟨c, hc⟩
    rw [← Criterion.name_of_ofName? hc]
    cases c <;> decide

-- =================================================================== reading

section Reading

variable {fail : TopicFault → TopicError} {ns name : String}

/-- An identifier is read if its name is there and its namespace has no colon,
and the mark for the empty namespace has none. -/
theorem ofParts?_eq_some :
    (∃ id, EntityId.ofParts? (if ns = emptyNamespace then "" else ns) name = some id)
      ↔ name ≠ "" ∧ ':' ∉ ns.toList := by
  have hmark : ':' ∉ (if ns = emptyNamespace then "" else ns).toList ↔ ':' ∉ ns.toList := by
    split
    case isTrue h => rw [h]; decide
    case isFalse => rfl
  rw [← hmark]
  constructor
  · rintro ⟨id, hid⟩
    obtain ⟨hns, hname⟩ := EntityId.eq_of_ofParts? hid
    rw [← hns, ← hname]
    exact ⟨id.name_ne_empty, id.ns_colon_free⟩
  · intro h
    exact ⟨_, dif_pos h⟩

/-- The last pieces are read if the first of them is the word for a criterion
and there is at most one more. -/
theorem parseRest_of_mem (fail : TopicFault → TopicError) {criterion : String}
    (h : criterion ∈ ["commands", "events", "errors", "acks"]) (action : Option String) :
    ∃ c, parseRest fail (criterion :: action.toList) = .ok (c, action) := by
  obtain ⟨c, hc⟩ := mem_criteria.mp h
  refine ⟨c, ?_⟩
  cases action with
  | none => simp only [Option.toList_none, parseRest, hc]
  | some action => simp only [Option.toList_some, parseRest, hc]

/-- What is read is grammatical. -/
theorem Grammatical.of_ofSegments {segments : List String} {t : Topic}
    (h : ofSegments fail segments = .ok t) : Grammatical segments := by
  obtain ⟨ns, name, group, rest, others, rfl, hgroup, hchannel, hrest, hentity⟩ :=
    ofSegments_eq_ok h
  obtain ⟨hname, hns⟩ := ofParts?_eq_some.mp ⟨_, hentity⟩
  have hcriterion := mem_criteria.mpr ⟨_, Criterion.ofName?_name t.criterion⟩
  obtain rfl := Group.name_of_ofName? hgroup
  obtain rfl := parseRest_eq_ok hrest
  rcases parseChannel_eq_ok hchannel with ⟨hpolicies, -, rfl⟩ | ⟨hthings, rfl⟩
  · rw [hpolicies]
    exact .policy hns hname hcriterion
  · rw [hthings]
    exact .thing hns hname (mem_channels.mpr ⟨_, Channel.ofName?_name t.channel⟩) hcriterion

/-- What is grammatical is read. -/
theorem Grammatical.exists_ofSegments {segments : List String} (h : Grammatical segments)
    (fail : TopicFault → TopicError) : ∃ t, ofSegments fail segments = .ok t := by
  cases h with
  | @thing ns name channel criterion action hns hname hchannel hcriterion =>
      obtain ⟨id, hid⟩ := ofParts?_eq_some.mpr ⟨hname, hns⟩
      obtain ⟨c, hc⟩ := mem_channels.mp hchannel
      obtain ⟨k, hk⟩ := parseRest_of_mem fail hcriterion action
      refine ⟨⟨id, .things, c, k, action⟩, ?_⟩
      have hgroup : Group.ofName? "things" = some .things := rfl
      simp only [ofSegments, hgroup, parseChannel, hc, bind, Except.bind, hk, hid]
  | @policy ns name criterion action hns hname hcriterion =>
      obtain ⟨id, hid⟩ := ofParts?_eq_some.mpr ⟨hname, hns⟩
      obtain ⟨k, hk⟩ := parseRest_of_mem fail hcriterion action
      refine ⟨⟨id, .policies, .none, k, action⟩, ?_⟩
      have hgroup : Group.ofName? "policies" = some .policies := rfl
      simp only [ofSegments, hgroup, parseChannel, bind, Except.bind, hk, hid]

end Reading

/-- A text is read exactly if its pieces are grammatical. -/
theorem exists_parse_iff (s : String) : (∃ t, parse s = .ok t) ↔ Grammatical (cut s) :=
  ⟨fun ⟨_, h⟩ => .of_ofSegments h, fun h => h.exists_ofSegments (.segments s)⟩

-- ============================================================ there and back

/-- The text with the mark for an empty namespace in front, if it leaves the
namespace out. -/
def filledIn (s : String) : String :=
  if (cut s).head? = some "" then emptyNamespace ++ s else s

/-- A text is its pieces with slashes between them. -/
theorem ofList_joinWith_cut (s : String) :
    String.ofList (Text.joinWith '/' ((cut s).map String.toList)) = s := by
  have hpieces : (cut s).map String.toList = Text.splitAt '/' s.toList := by
    rw [cut, List.map_map]
    simp [Function.comp_def]
  rw [hpieces, Text.joinWith_splitAt, String.ofList_toList]

/-- A topic that was read has the segments that it was read from, but for an
empty namespace. -/
theorem segments_of_parse {s : String} {t : Topic} (h : parse s = .ok t) :
    ∃ ns rest, cut s = ns :: rest
      ∧ t.segments = (if ns = "" then emptyNamespace else ns) :: rest := by
  obtain ⟨ns, name, group, rest, others, hsegments, hgroup, hchannel, hrest, hentity⟩ :=
    ofSegments_eq_ok h
  obtain ⟨hns, hname⟩ := EntityId.eq_of_ofParts? hentity
  have hwritten : t.nsText = if ns = "" then emptyNamespace else ns := by
    unfold nsText
    rw [hns]
    by_cases hmark : ns = emptyNamespace
    · rw [if_pos hmark, if_pos rfl, hmark, if_neg (by decide)]
    · rw [if_neg hmark]
  have hback : t.back = rest := by
    obtain rfl := parseRest_eq_ok hrest
    unfold back
    rcases parseChannel_eq_ok hchannel with ⟨hpolicies, -, rfl⟩ | ⟨hthings, rfl⟩
    · rw [hpolicies]
      rfl
    · rw [hthings]
      rfl
  refine ⟨ns, name :: group :: rest, hsegments, ?_⟩
  rw [segments_eq, hwritten, hname, Group.name_of_ofName? hgroup, hback]

/-- A topic that was read is written as it was read, with its namespace filled in. -/
theorem text_of_parse {s : String} {t : Topic} (h : parse s = .ok t) : t.text = filledIn s := by
  obtain ⟨ns, rest, hcut, hsegments⟩ := segments_of_parse h
  have hwhole := ofList_joinWith_cut s
  rw [hcut, List.map_cons, Text.joinWith_cons] at hwhole
  unfold filledIn text
  rw [hsegments, hcut, List.head?_cons, List.map_cons, Text.joinWith_cons]
  by_cases hempty : ns = ""
  · rw [hempty] at hwhole ⊢
    rw [if_pos rfl, if_pos rfl, ← hwhole]
    simp
  · rw [if_neg hempty, if_neg (by simpa using hempty), hwhole]

/-- The proper topics are those that are read back. -/
theorem parse_text_iff {t : Topic} : parse t.text = .ok t ↔ t.Proper :=
  ⟨proper_of_parse, Proper.parse_text⟩

/-- A topic that was made of its parts has a channel where it needs one, so what
makes it proper is in the other parts. -/
theorem proper_about_iff {id : EntityId} {g : Group} {c : Channel} {criterion : Criterion}
    {action : Option String} :
    (about id g c criterion action).Proper
      ↔ ('/' ∉ id.ns.toList ∧ '/' ∉ id.name.toList ∧ ∀ a ∈ action, '/' ∉ a.toList)
        ∧ id.ns ≠ emptyNamespace := by
  have hentity : (about id g c criterion action).entity = id := by cases action <;> rfl
  have haction : (about id g c criterion action).action = action := by cases action <;> rfl
  have hchannel : (about id g c criterion action).group = .policies →
      (about id g c criterion action).channel = .none := by
    cases action <;> cases g <;> first | exact fun _ => rfl | exact nofun
  constructor
  · rintro ⟨hns, hne, hname, hactions, -⟩
    rw [hentity] at hns hne hname
    rw [haction] at hactions
    exact ⟨⟨hns, hname, hactions⟩, hne⟩
  · rintro ⟨⟨hns, hname, hactions⟩, hne⟩
    rw [← hentity] at hns hne hname
    rw [← haction] at hactions
    exact ⟨hns, hne, hname, hactions, hchannel⟩

/-- A text is a topic exactly if its pieces between slashes are grammatical, and
the topic is then written as that text, an empty namespace filled in. A topic
that is made of an identifier, a group, a channel, a criterion and perhaps an
action is read back from its text exactly if namespace, name and action hold no
slash and the namespace is not the mark for the empty one. -/
theorem texts_are_topics_by_grammar :
    (∀ s : String,
      ((∃ t, parse s = .ok t) ↔ Grammatical (cut s))
      ∧ ∀ t, parse s = .ok t → t.text = filledIn s)
    ∧ ∀ (id : EntityId) (g : Group) (c : Channel) (criterion : Criterion)
        (action : Option String),
        parse (about id g c criterion action).text = .ok (about id g c criterion action)
          ↔ ('/' ∉ id.ns.toList ∧ '/' ∉ id.name.toList ∧ ∀ a ∈ action, '/' ∉ a.toList)
            ∧ id.ns ≠ emptyNamespace :=
  ⟨fun s => ⟨exists_parse_iff s, fun _ => text_of_parse⟩,
    fun _ _ _ _ _ => parse_text_iff.trans proper_about_iff⟩

/-- A namespace that is left out is filled in. -/
example : (parse "/lamp/things/live/events/moved").map text
    = .ok "_/lamp/things/live/events/moved" := by decide

end DeviceTwin.Topic
