/-
Whose topic a text is.

The text of a topic begins with the namespace and the name of an entity, with a
slash behind each. An identifier may hold slashes in both parts, and its
namespace may be the low line that stands for the empty one. So there are
identifiers that topics write alike (`Homonym`): of one text, one of them has a
piece between two slashes in its namespace and the other has it in its name; or
one has the empty namespace and the other the low line.

There are no others (`Topic.text_about_eq_iff`). Identifiers without slashes and
without the low line for a namespace (`EntityId.Plain`) never share a topic,
whatever comes behind them, and a message is read as one for its own entity or
not at all, but for the low line (`topics_are_shared_by_homonyms`).
-/
import DeviceTwin.Proofs.Frame

namespace DeviceTwin

-- ================================================================== two cuts

/-- Two cuts of one text at marks are the same cut, or one is behind the other. -/
theorem Text.append_cons_eq_iff {mark : Char} {before after before' after' : List Char} :
    before ++ mark :: after = before' ++ mark :: after' ↔
      (before = before' ∧ after = after')
      ∨ (∃ piece, before = before' ++ mark :: piece ∧ after' = piece ++ mark :: after)
      ∨ ∃ piece, before' = before ++ mark :: piece ∧ after = piece ++ mark :: after' := by
  constructor
  · intro h
    rcases List.append_eq_append_iff.mp h with ⟨more, rfl, hmore⟩ | ⟨more, rfl, hmore⟩
    · cases more with
      | nil => exact .inl ⟨(List.append_nil _).symm, (List.cons.inj hmore).2⟩
      | cons c piece =>
          obtain ⟨rfl, hafter⟩ := List.cons.inj hmore
          exact .inr (.inr ⟨piece, rfl, hafter⟩)
    · cases more with
      | nil => exact .inl ⟨List.append_nil _, (List.cons.inj hmore).2.symm⟩
      | cons c piece =>
          obtain ⟨rfl, hafter⟩ := List.cons.inj hmore
          exact .inr (.inl ⟨piece, rfl, hafter⟩)
  · rintro (⟨rfl, rfl⟩ | ⟨piece, rfl, rfl⟩ | ⟨piece, rfl, rfl⟩)
    · rfl
    · simp
    · simp

/-- The same of texts and slashes. -/
theorem Text.append_slash_eq_iff {before after before' after' : String} :
    before ++ "/" ++ after = before' ++ "/" ++ after' ↔
      (before = before' ∧ after = after')
      ∨ (∃ piece, before = before' ++ "/" ++ piece ∧ after' = piece ++ "/" ++ after)
      ∨ ∃ piece, before' = before ++ "/" ++ piece ∧ after = piece ++ "/" ++ after' := by
  have hslash : ∀ s t : String, (s ++ "/" ++ t).toList = s.toList ++ '/' :: t.toList := by
    simp
  have hpiece : ∀ {P : List Char → Prop}, (∃ piece : String, P piece.toList) ↔ ∃ cs, P cs :=
    ⟨fun ⟨piece, h⟩ => ⟨piece.toList, h⟩,
      fun ⟨cs, h⟩ => ⟨String.ofList cs, by rwa [String.toList_ofList]⟩⟩
  simp only [← String.toList_inj, hslash, Text.append_cons_eq_iff, hpiece
    (P := fun cs => before.toList = before'.toList ++ '/' :: cs
      ∧ after'.toList = cs ++ '/' :: after.toList), hpiece
    (P := fun cs => before'.toList = before.toList ++ '/' :: cs
      ∧ after.toList = cs ++ '/' :: after'.toList)]

-- =============================================================== identifiers

namespace EntityId

variable {a b : EntityId}

theorem eq_of_parts (hns : a.ns = b.ns) (hname : a.name = b.name) : a = b := by
  cases a
  cases b
  simp only at hns hname
  subst hns hname
  rfl

/-- The namespace as topics write it. -/
def written (id : EntityId) : String := if id.ns = "" then Topic.emptyNamespace else id.ns

/-- No slashes, and no namespace that stands for the empty one. -/
structure Plain (id : EntityId) : Prop where
  ns : '/' ∉ id.ns.toList
  ns_ne : id.ns ≠ Topic.emptyNamespace
  name : '/' ∉ id.name.toList

/-- Two identifiers that topics write alike. -/
inductive Homonym (a b : EntityId) : Prop where
  /-- The namespace of one is empty and that of the other stands for the empty one. -/
  | placeholder (empty : a.ns = "") (line : b.ns = Topic.emptyNamespace) (name : a.name = b.name)
  /-- A piece is in the namespace of one and in the name of the other. -/
  | moved (piece : String) (ns : a.written = b.written ++ "/" ++ piece)
      (name : b.name = piece ++ "/" ++ a.name)

/-- The namespaces are written alike, or a piece has moved. -/
theorem Homonym.written (h : Homonym a b) :
    (a.written = b.written ∧ a.name = b.name)
      ∨ ∃ piece, a.written = b.written ++ "/" ++ piece ∧ b.name = piece ++ "/" ++ a.name := by
  cases h with
  | placeholder empty line name =>
      have hline : b.ns ≠ "" := by
        rw [line]
        decide
      refine .inl ⟨?_, name⟩
      unfold EntityId.written
      rw [if_pos empty, if_neg hline, line]
  | moved piece ns name => exact .inr ⟨piece, ns, name⟩

/-- Namespaces that are written alike are the same, or one of them is empty and the
other stands for it. -/
theorem ns_of_written_eq (h : a.written = b.written) :
    a.ns = b.ns ∨ (a.ns = "" ∧ b.ns = Topic.emptyNamespace)
      ∨ (b.ns = "" ∧ a.ns = Topic.emptyNamespace) := by
  unfold written at h
  by_cases ha : a.ns = ""
  · by_cases hb : b.ns = ""
    · exact .inl (ha.trans hb.symm)
    · rw [if_pos ha, if_neg hb] at h
      exact .inr (.inl ⟨ha, h.symm⟩)
  · by_cases hb : b.ns = ""
    · rw [if_neg ha, if_pos hb] at h
      exact .inr (.inr ⟨hb, h⟩)
    · rw [if_neg ha, if_neg hb] at h
      exact .inl h

/-- The beginning of a topic tells two identifiers apart unless they are homonyms. -/
theorem front_eq_iff (hne : a ≠ b) :
    a.written ++ "/" ++ a.name = b.written ++ "/" ++ b.name ↔ Homonym a b ∨ Homonym b a := by
  rw [Text.append_slash_eq_iff]
  constructor
  · rintro (⟨hns, hname⟩ | ⟨piece, hns, hname⟩ | ⟨piece, hns, hname⟩)
    · rcases ns_of_written_eq hns with hns | ⟨ha, hb⟩ | ⟨hb, ha⟩
      · exact absurd (eq_of_parts hns hname) hne
      · exact .inl (.placeholder ha hb hname)
      · exact .inr (.placeholder hb ha hname.symm)
    · exact .inl (.moved piece hns hname)
    · exact .inr (.moved piece hns hname)
  · rintro (h | h)
    · rcases h.written with hsame | hmoved
      · exact .inl hsame
      · exact .inr (.inl hmoved)
    · rcases h.written with ⟨hns, hname⟩ | hmoved
      · exact .inl ⟨hns.symm, hname.symm⟩
      · exact .inr (.inr hmoved)

theorem Plain.slash_not_mem_written (h : a.Plain) : '/' ∉ a.written.toList := by
  unfold written
  split
  · decide
  · exact h.ns

/-- The namespace of a plain identifier is known by how it is written. -/
theorem Plain.ns_eq (ha : a.Plain) (hb : b.Plain) (h : a.written = b.written) : a.ns = b.ns := by
  rcases ns_of_written_eq h with hns | ⟨-, hline⟩ | ⟨-, hline⟩
  · exact hns
  · exact absurd hline hb.ns_ne
  · exact absurd hline ha.ns_ne

end EntityId

-- ==================================================================== topics

namespace Topic

/-- The topic of an entity with an action or without one. -/
def about (id : EntityId) (g : Group) (c : Channel) (criterion : Criterion)
    (action : Option String) : Topic :=
  match action with
  | some action => (make id g c criterion).withAction action
  | none => make id g c criterion

/-- What comes in a text behind the name of the entity and a slash. -/
def behind (t : Topic) : List Char := Text.joinWith '/' ((t.group.name :: t.back).map String.toList)

theorem toList_text (t : Topic) :
    t.text.toList
      = t.entity.written.toList ++ '/' :: (t.entity.name.toList ++ '/' :: t.behind) := by
  rw [text, String.toList_ofList, segments_eq]
  rfl

/-- Topics that differ in the entity alone have the same text exactly if the
entities are homonyms. -/
theorem text_about_eq_iff {a b : EntityId} (hne : a ≠ b) (g : Group) (c : Channel)
    (criterion : Criterion) (action : Option String) :
    (about a g c criterion action).text = (about b g c criterion action).text
      ↔ EntityId.Homonym a b ∨ EntityId.Homonym b a := by
  have hparts : ∀ id : EntityId, (about id g c criterion action).text.toList
      = (id.written ++ "/" ++ id.name).toList
        ++ '/' :: (about a g c criterion action).behind := by
    intro id
    rw [toList_text]
    cases action <;> simp [about, make, withAction, behind, back]
  rw [← EntityId.front_eq_iff hne, ← String.toList_inj, ← String.toList_inj, hparts a, hparts b,
    List.append_cancel_right_eq]

/-- Plain identifiers never share a topic, whatever comes behind them. -/
theorem entity_of_text_eq {t t' : Topic} (ht : t.entity.Plain) (ht' : t'.entity.Plain)
    (h : t.text = t'.text) : t.entity = t'.entity := by
  have hcut := congrArg (fun s => Text.cutAt? '/' s.toList) h
  simp only [toList_text, Text.cutAt?_append ht.slash_not_mem_written,
    Text.cutAt?_append ht'.slash_not_mem_written, Option.some.injEq, Prod.mk.injEq] at hcut
  obtain ⟨hns, hrest⟩ := hcut
  have hcut := congrArg (Text.cutAt? '/') hrest
  simp only [Text.cutAt?_append ht.name, Text.cutAt?_append ht'.name, Option.some.injEq,
    Prod.mk.injEq] at hcut
  exact EntityId.eq_of_parts (ht.ns_eq ht' (String.toList_inj.mp hns))
    (String.toList_inj.mp hcut.1)

/-- What is read from the text of a topic is about the same entity, unless its
namespace is the low line: then it is about the one with the empty namespace. -/
theorem entity_of_parse_text {t t' : Topic} (h : parse t.text = .ok t') :
    t'.entity = t.entity
      ∨ t.entity.ns = emptyNamespace ∧ t'.entity.ns = "" ∧ t'.entity.name = t.entity.name := by
  have hunmoved := unmoved_of_parse_text h
  obtain ⟨ns, name, group, rest, others, hsegments, -, -, -, hentity⟩ := ofSegments_eq_ok h
  change cut t.text = _ at hsegments
  rw [cut_text_eq, cut_of_not_mem hunmoved.ns, cut_of_not_mem hunmoved.name] at hsegments
  simp only [List.cons_append, List.nil_append, List.cons.injEq] at hsegments
  obtain ⟨rfl, rfl, -⟩ := hsegments
  obtain ⟨hns, hname⟩ := EntityId.eq_of_ofParts? hentity
  by_cases hline : t.entity.ns = emptyNamespace
  · refine .inr ⟨hline, ?_, hname⟩
    have hwritten : t.nsText = emptyNamespace := by
      unfold nsText
      rw [hline]
      rfl
    rw [hns, if_pos hwritten]
  · refine .inl (EntityId.eq_of_parts ?_ hname)
    rw [hns]
    unfold nsText
    by_cases hempty : t.entity.ns = ""
    · rw [if_pos hempty, if_pos rfl, hempty]
    · rw [if_neg hempty, if_neg hline]

end Topic

-- =================================================================== messages

/-- The topic of a signal names its entity. -/
theorem Envelope.entity_ofSignal (s : Signal) : (ofSignal s).topic.entity = s.entity := by
  cases s <;> rfl

/-- The signal in an envelope is about the entity of the topic. -/
theorem Envelope.entity_of_toSignal {e : Envelope} {s : Signal} (h : e.toSignal = .ok s) :
    s.entity = e.topic.entity := by
  cases holds_of_toSignal h <;> rfl

/-- Two identifiers have topics of the same text exactly if they are homonyms. If
neither has slashes or the low line for a namespace, they have no topic in common,
whatever the topics are for. And what is for the one is read as for the other only
if the namespace of the one is the low line, and the other has the empty namespace
and the same name. -/
theorem topics_are_shared_by_homonyms {a b : EntityId} (hne : a ≠ b) (g : Group) (c : Channel)
    (criterion : Criterion) (action : Option String) :
    ((Topic.about a g c criterion action).text = (Topic.about b g c criterion action).text
      ↔ EntityId.Homonym a b ∨ EntityId.Homonym b a)
    ∧ (a.Plain → b.Plain → ∀ t t' : Topic, t.entity = a → t'.entity = b → t.text ≠ t'.text)
    ∧ ∀ (F : WireFormat) (s s' : Signal), s.entity = a → (F.encode (.ofSignal s)).Sized →
        (F.encode (.ofSignal s)).toSignal = .ok s' → s'.entity = b →
          a.ns = Topic.emptyNamespace ∧ b.ns = "" ∧ b.name = a.name := by
  refine ⟨Topic.text_about_eq_iff hne g c criterion action, ?_, ?_⟩
  · rintro ha hb t t' rfl rfl hsame
    exact hne (Topic.entity_of_text_eq ha hb hsame)
  · rintro F s s' rfl hsized hread rfl
    obtain ⟨e, hdecode, hsignal⟩ := Result.bind_eq_ok.mp hread
    have hreread := F.rereads_of_decode (F.fits_of_sized hsized) hdecode
    have hentity := Topic.entity_of_parse_text hreread.topic
    rw [← Envelope.entity_of_toSignal hsignal, Envelope.entity_ofSignal] at hentity
    rcases hentity with hsame | hline
    · exact absurd hsame.symm hne
    · exact hline

/-- The command to switch an entity on. -/
def switchOn (id : EntityId) : Signal :=
  .command
    { type := "things.commands:switchOn"
      entity := id
      path := .root
      value := none
      headers := .empty }

theorem lamp_ne_empty : "lamp" ≠ "" := by decide

/-- The lamp of the garden with the gate. -/
def gardenLamp : EntityId := ⟨"garden", "lamp", lamp_ne_empty, Frame.gate.ns_colon_free⟩

/-- A lamp without a namespace. -/
def lamp : EntityId := ⟨"", "lamp", lamp_ne_empty, by decide⟩

/-- A lamp whose namespace is the low line. -/
def lineLamp : EntityId := ⟨"_", "lamp", lamp_ne_empty, by decide⟩

/-- What switches one lamp on is not for another one. -/
theorem gardenLamp_is_told_from_lamp :
    (Envelope.ofSignal (switchOn gardenLamp)).topic.text
        ≠ (Envelope.ofSignal (switchOn lamp)).topic.text
    ∧ ∀ s, (WireFormat.json.encode (.ofSignal (switchOn gardenLamp))).toSignal = .ok s →
        s.entity ≠ lamp := by
  obtain ⟨-, hplain, hread⟩ := topics_are_shared_by_homonyms
    (by decide : gardenLamp ≠ lamp) .things .twin .commands (some "switchOn")
  refine ⟨?_, fun s hs hlamp => ?_⟩
  · exact hplain ⟨by decide, by decide, by decide⟩ ⟨by decide, by decide, by decide⟩
      (Envelope.ofSignal (switchOn gardenLamp)).topic (Envelope.ofSignal (switchOn lamp)).topic
      rfl rfl
  · obtain ⟨hline, -⟩ := hread .json (switchOn gardenLamp) s rfl trivial hs hlamp
    exact absurd hline (by decide)

/-- Two lamps share a topic, and what is for the one switches the other one on. -/
theorem lineLamp_is_taken_for_lamp :
    lineLamp ≠ lamp
    ∧ (Topic.about lineLamp .things .twin .commands (some "switchOn")).text
      = (Topic.about lamp .things .twin .commands (some "switchOn")).text
    ∧ (WireFormat.json.encode (.ofSignal (switchOn lineLamp))).toSignal
      = .ok (switchOn lamp) := by
  have htext : (Envelope.ofSignal (switchOn lineLamp)).topic.text
      = (Envelope.ofSignal (switchOn lamp)).topic.text := by decide
  have hframe : WireFormat.json.encode (.ofSignal (switchOn lineLamp))
      = WireFormat.json.encode (.ofSignal (switchOn lamp)) := by
    simp only [WireFormat.encode, Envelope.record, Envelope.fields, htext]
    rfl
  have hdecode := WireFormat.decode_flat (e := .ofSignal (switchOn lamp))
    ⟨by decide, by decide, by decide, by decide, by decide⟩
    fun _ hp => absurd hp List.not_mem_nil
  refine ⟨by decide, htext, ?_⟩
  rw [hframe]
  exact Result.bind_eq_ok.mpr ⟨_, hdecode, rfl⟩

end DeviceTwin
