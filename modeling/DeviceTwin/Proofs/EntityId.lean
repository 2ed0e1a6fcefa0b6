/-
Identifiers and their texts are the same.

An identifier is made of its parts or read from its text, and each way has a
check of its own. The checks let the same identifiers through: parts form the
identifier that has these parts (`ofParts?_eq_some_iff`), and a text is read as
the identifier that has this text (`parse?_eq_some_iff`). So identifiers can be
compared by their texts.

A set of acknowledgements writes the identifier of a member as its text, and not
at all if it is that of the set. The member is about the same entity when it is
read, whatever becomes of its payload.
-/
import DeviceTwin.Proofs.Envelope.Signal

namespace DeviceTwin

namespace EntityId

variable {ns name s : String} {id : EntityId}

/-- Parts form the identifier that has these parts. -/
theorem ofParts?_eq_some_iff : ofParts? ns name = some id ↔ id.ns = ns ∧ id.name = name := by
  constructor
  · exact eq_of_ofParts?
  · intro h
    rw [← h.1, ← h.2]
    exact id.ofParts?_parts

theorem exists_ofParts?_iff :
    (∃ id, ofParts? ns name = some id) ↔ ':' ∉ ns.toList ∧ name ≠ "" := by
  constructor
  · intro h
    obtain ⟨id, hid⟩ := h
    obtain ⟨hns, hname⟩ := eq_of_ofParts? hid
    rw [← hns, ← hname]
    exact ⟨id.ns_colon_free, id.name_ne_empty⟩
  · intro h
    exact ⟨⟨ns, name, h.2, h.1⟩, ofParts?_eq_some_iff.mpr ⟨rfl, rfl⟩⟩

/-- A text that is read is the text of what it is read as. -/
theorem text_of_parse? (h : parse? s = some id) : id.text = s := by
  unfold parse? at h
  split at h
  case h_2 => cases h
  case h_1 before after hcut =>
    obtain ⟨hns, hname⟩ := eq_of_ofParts? h
    apply String.toList_injective
    rw [toList_text, hns, hname, Text.eq_of_cutAt? hcut]
    simp

/-- A text is read as the identifier that has this text. -/
theorem parse?_eq_some_iff : parse? s = some id ↔ id.text = s := by
  constructor
  · exact text_of_parse?
  · intro h
    rw [← h]
    exact id.parse?_text

/-- There is such an identifier if something follows the first colon. -/
theorem exists_parse?_iff :
    (∃ id, parse? s = some id)
      ↔ ∃ ns name : String, ':' ∉ ns.toList ∧ name ≠ "" ∧ s = ns ++ ":" ++ name := by
  constructor
  · intro h
    obtain ⟨id, hid⟩ := h
    exact ⟨id.ns, id.name, id.ns_colon_free, id.name_ne_empty, (text_of_parse? hid).symm⟩
  · intro h
    obtain ⟨ns, name, hns, hname, hs⟩ := h
    exact ⟨⟨ns, name, hname, hns⟩, parse?_eq_some_iff.mpr hs.symm⟩

/-- No two identifiers share a text. -/
theorem text_injective : Function.Injective text := by
  intro a b h
  have ha := a.parse?_text
  rw [h, b.parse?_text] at ha
  exact (Option.some.inj ha).symm

end EntityId

/-- The members of a set are about the same entities when they are read. -/
theorem Acknowledgements.map_entity_withoutNulls (set : Acknowledgements) :
    set.withoutNulls.members.map (·.entity) = set.members.map (·.entity) := by
  unfold withoutNulls
  rw [List.map_map]
  rfl

namespace EntityId

/-- Identifiers correspond to their texts:

- a text is read if and only if it has a colon and something behind the first
  one, and what is read is the identifier with this text;
- parts are accepted if and only if there is no colon in the namespace and the
  name is not empty, and from its text the identifier is read with the same
  parts;
- identifiers are equal if and only if their texts are;
- a set of acknowledgements about any entities is taken out of its envelope
  about the same ones, the set and each of its members. -/
theorem identifiers_are_their_texts :
    (∀ s : String,
      ((∃ id, parse? s = some id)
        ↔ ∃ ns name : String, ':' ∉ ns.toList ∧ name ≠ "" ∧ s = ns ++ ":" ++ name)
      ∧ ∀ id, parse? s = some id ↔ id.text = s)
    ∧ (∀ ns name : String,
      ((∃ id, ofParts? ns name = some id) ↔ ':' ∉ ns.toList ∧ name ≠ "")
      ∧ ∀ id, ofParts? ns name = some id →
        id.text = ns ++ ":" ++ name
        ∧ ∃ id', parse? id.text = some id' ∧ id'.ns = ns ∧ id'.name = name)
    ∧ (∀ a b : EntityId, a = b ↔ a.text = b.text)
    ∧ ∀ set : Acknowledgements, ∃ set',
      (Envelope.ofSignal (.acknowledgements set)).toSignal = .ok (.acknowledgements set')
      ∧ set'.entity = set.entity
      ∧ set'.members.map (·.entity) = set.members.map (·.entity) := by
  refine ⟨fun s => ⟨exists_parse?_iff, fun id => parse?_eq_some_iff⟩,
    fun ns name => ⟨exists_ofParts?_iff, fun id h => ?_⟩,
    fun a b => text_injective.eq_iff.symm, fun set => ?_⟩
  · obtain ⟨hns, hname⟩ := eq_of_ofParts? h
    refine ⟨?_, id, id.parse?_text, hns, hname⟩
    rw [← hns, ← hname]
    rfl
  · exact ⟨set.withoutNulls, Envelope.toSignal_acknowledgements_withoutNulls set, rfl,
      set.map_entity_withoutNulls⟩

/-- Colons are left to the name. -/
example : (parse? ":urn:lamp:").map (fun id => (id.ns, id.name)) = some ("", "urn:lamp:")
    ∧ ofParts? "urn:lamp" "a" = none ∧ parse? "lamp:" = none := by decide +kernel

end EntityId

end DeviceTwin
