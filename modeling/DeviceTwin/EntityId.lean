/-
Identifiers of managed entities.

An entity (a thing or a policy) is named by a namespace and a name, and
written with a colon between the two. The namespace may be empty and
holds no colon; the name may hold colons and is not empty. Under these
conditions, which the type carries, the first colon of the text is the
border, so an identifier and its text determine each other.
-/
import DeviceTwin.Text.Split

namespace DeviceTwin

/-- The identifier of a thing or a policy. -/
structure EntityId where
  ns : String
  name : String
  name_ne_empty : name ≠ ""
  ns_colon_free : ':' ∉ ns.toList
  deriving DecidableEq

namespace EntityId

/-- The text of two parts, whether or not they form an identifier. -/
def textOf (ns name : String) : String := ns ++ ":" ++ name

/-- The text of an identifier. -/
def text (id : EntityId) : String := textOf id.ns id.name

/-- The identifier with these parts, if the name is not empty and the
namespace has no colon. -/
def ofParts? (ns name : String) : Option EntityId :=
  if h : name ≠ "" ∧ ':' ∉ ns.toList then some ⟨ns, name, h.1, h.2⟩ else none

/-- Reads the text of an identifier. -/
def parse? (s : String) : Option EntityId :=
  match Text.cutAt? ':' s.toList with
  | some (ns, name) => ofParts? (String.ofList ns) (String.ofList name)
  | none => none

/-- Identifiers are ordered by namespace and then by name. -/
def compare (a b : EntityId) : Ordering :=
  (compareOfLessAndEq a.ns b.ns).then (compareOfLessAndEq a.name b.name)

end EntityId

end DeviceTwin
