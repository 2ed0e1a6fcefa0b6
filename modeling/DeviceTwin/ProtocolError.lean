/-
What can be wrong with a message, and the words for it.
-/
import DeviceTwin.DecodeError

namespace DeviceTwin

/-- Why a message or a part of one is not accepted. -/
inductive ProtocolError where
  | entityId (text : String)
  | topic (text : String) (fault : TopicFault)
  | unknownChannel (name : String)
  | unknownGroup (name : String)
  | missingField (name : String)
  | malformedValue (cause : DecodeError)
  | codec (cause : DecodeError)

namespace ProtocolError

/-- The error for a text that is no topic. -/
def ofTopicError : TopicError → ProtocolError
  | .segments text fault => .topic text fault
  | .entity text => .entityId text

/-- The message for a field that is there and makes no sense. -/
def malformed (field reason : String) : String := "malformed '" ++ field ++ "': " ++ reason

/-- The error in words. -/
def message : ProtocolError → String
  | entityId text => EntityId.errorMessage text
  | topic text fault => TopicError.message (.segments text fault)
  | unknownChannel name => "unknown channel '" ++ name ++ "'"
  | unknownGroup name => malformed "group" ("unknown group '" ++ name ++ "'")
  | missingField name => "adaptable is missing required field '" ++ name ++ "'"
  | malformedValue cause => malformed "value" (cause.detail.getD "")
  | codec cause =>
      match cause.detail with
      | some detail => "wire codec failure: " ++ detail
      | none => "wire codec failure"

end ProtocolError

end DeviceTwin
