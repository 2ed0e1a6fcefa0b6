/-
The types of signals, as texts.

A signal type is a group, a point, a criterion, a colon and a name, as
in things.commands:modifyAttribute. Types are free texts to most of the
library, so each function here says what it makes of a text of any form:
the group is read before the first point, the name after the first
colon, and the type of a response comes from exchanging every
occurrence of the criterion of commands.
-/
import DeviceTwin.Channel
import DeviceTwin.Text.Split

namespace DeviceTwin.SignalType

/-- The type with these parts. -/
def ofParts (group : Group) (criterion name : String) : String :=
  group.name ++ "." ++ criterion ++ ":" ++ name

/-- The group before the first point, if it is one. -/
def group? (type : String) : Option Group :=
  match Text.cutAt? '.' type.toList with
  | some (group, _) => Group.ofName? (String.ofList group)
  | none => none

/-- What follows the first colon, or else the whole type. -/
def shortName (type : String) : String :=
  match Text.cutAt? ':' type.toList with
  | some (_, name) => String.ofList name
  | none => type

/-- The type of the response to a command of this type. -/
def response (type : String) : String :=
  String.ofList (Text.substitute ".commands".toList ".responses".toList type.toList)

end DeviceTwin.SignalType
