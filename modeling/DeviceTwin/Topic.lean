/-
Topics: the addresses of envelopes.

A topic is written as segments between slashes: namespace, name, group,
then for things the channel, then the criterion and at most one more
segment, the action. An empty namespace is written as a low line, and a
topic about policies has no channel. `Topic.parse` names the first fault
from left to right: too few segments, the group, the channel, too many
or too few segments after it, the criterion, and last the entity.
-/
import DeviceTwin.Channel
import DeviceTwin.EntityId

namespace DeviceTwin

-- ================================================================= criteria

/-- What kind of message a topic is for. -/
inductive Criterion where
  | commands
  | events
  | errors
  | acks
  deriving DecidableEq

namespace Criterion

/-- The name in topics. -/
def name : Criterion → String
  | commands => "commands"
  | events => "events"
  | errors => "errors"
  | acks => "acks"

/-- The criterion of this name. -/
def ofName? : String → Option Criterion
  | "commands" => some commands
  | "events" => some events
  | "errors" => some errors
  | "acks" => some acks
  | _ => none

@[simp] theorem ofName?_name (c : Criterion) : ofName? c.name = some c := by
  cases c <;> rfl

theorem name_of_ofName? {s : String} {c : Criterion} (h : ofName? s = some c) : c.name = s := by
  unfold ofName? at h
  split at h <;> cases h <;> rfl

end Criterion

-- =================================================================== topics

/-- What an envelope is about and what kind of message it holds. -/
structure Topic where
  entity : EntityId
  group : Group
  channel : Channel
  criterion : Criterion
  action : Option String
  deriving DecidableEq

/-- What can be wrong with the segments of a topic. -/
inductive TopicFault where
  | tooFewSegments
  | unknownGroup
  | missingChannel
  | unknownChannel
  | missingCriterion
  | tooManySegments
  | unknownCriterion
  deriving DecidableEq

/-- Why a text is no topic. -/
inductive TopicError where
  | segments (topic : String) (fault : TopicFault)
  | entity (text : String)
  deriving DecidableEq

/-- The fault in words. -/
def TopicFault.message : TopicFault → String
  | tooFewSegments => "expected at least namespace, name and group"
  | unknownGroup => "unknown group"
  | missingChannel => "missing channel"
  | unknownChannel => "unknown channel"
  | missingCriterion => "missing criterion"
  | tooManySegments => "too many segments"
  | unknownCriterion => "unknown criterion"

namespace Topic

/-- How an empty namespace is written. -/
def emptyNamespace : String := "_"

/-- The channel that a topic of this group can have: none for policies,
and for things twin in place of none. -/
def channelFor : Group → Channel → Channel
  | .policies, _ => .none
  | .things, .none => .twin
  | .things, channel => channel

/-- The topic without an action. -/
def make (entity : EntityId) (group : Group) (channel : Channel) (criterion : Criterion) : Topic :=
  ⟨entity, group, channelFor group channel, criterion, none⟩

/-- The topic with this action. -/
def withAction (t : Topic) (action : String) : Topic := { t with action := some action }

-- ================================================================== writing

/-- The segments of a topic. -/
def segments (t : Topic) : List String :=
  [if t.entity.ns = "" then emptyNamespace else t.entity.ns, t.entity.name, t.group.name]
    ++ (match t.group with | .things => [t.channel.name] | .policies => [])
    ++ [t.criterion.name]
    ++ t.action.toList

/-- The text of a topic. -/
def text (t : Topic) : String :=
  String.ofList (Text.joinWith '/' (t.segments.map String.toList))

-- ================================================================== reading

/-- Reads the criterion and the action. -/
def parseRest (fail : TopicFault → TopicError) :
    List String → Except TopicError (Criterion × Option String)
  | [] => .error (fail .missingCriterion)
  | [criterion] =>
      match Criterion.ofName? criterion with
      | some c => .ok (c, none)
      | none => .error (fail .unknownCriterion)
  | [criterion, action] =>
      match Criterion.ofName? criterion with
      | some c => .ok (c, some action)
      | none => .error (fail .unknownCriterion)
  | _ => .error (fail .tooManySegments)

/-- Reads the channel, which only things have. -/
def parseChannel (fail : TopicFault → TopicError) :
    Group → List String → Except TopicError (Channel × List String)
  | .policies, rest => .ok (.none, rest)
  | .things, [] => .error (fail .missingChannel)
  | .things, channel :: rest =>
      match Channel.ofName? channel with
      | some c => .ok (c, rest)
      | none => .error (fail .unknownChannel)

/-- Reads the segments of a topic. -/
def ofSegments (fail : TopicFault → TopicError) : List String → Except TopicError Topic
  | ns :: name :: group :: rest => do
      let some group := Group.ofName? group | .error (fail .unknownGroup)
      let (channel, rest) ← parseChannel fail group rest
      let (criterion, action) ← parseRest fail rest
      let ns := if ns = emptyNamespace then "" else ns
      match EntityId.ofParts? ns name with
      | some entity => .ok ⟨entity, group, channel, criterion, action⟩
      | none => .error (.entity (EntityId.textOf ns name))
  | _ => .error (fail .tooFewSegments)

/-- Reads a topic. -/
def parse (s : String) : Except TopicError Topic :=
  ofSegments (.segments s) ((Text.splitAt '/' s.toList).map String.ofList)

end Topic

end DeviceTwin
