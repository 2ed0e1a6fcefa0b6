/-
Why an outline does not decode.

A decoder reads what stands in a frame from front to back and stops at
the first thing that it cannot take. The causes are those of
`DecodeError`. A frame that cannot be read on at all (its spelling is
broken, it nests too deeply, a number or a time does not exist) is
`unreadable` and has no further detail.
-/
import DeviceTwin.Number.Shortest
import DeviceTwin.Text.Quoted
import DeviceTwin.Topic

namespace DeviceTwin

/-- What was found where something else was wanted. -/
inductive Found where
  | null
  | bool (b : Bool)
  | int (n : Integer)
  | float (x : Double)
  | text (s : String)
  | list
  | object

/-- Why an outline does not decode. -/
inductive DecodeError where
  | unreadable
  | missingField (name : String)
  | duplicateField (name : String)
  | unknownVariant (name : String) (known : List String)
  | wrongKind (found : Found) (wanted : String)
  | outOfRange (n : Integer) (wanted : String)
  | wrongLength (length : Nat) (wanted : String)
  | entity (text : String)
  | topic (error : TopicError)

/-- The message for a text that is no identifier. -/
def EntityId.errorMessage (text : String) : String :=
  "invalid entity id '" ++ text ++ "': expected '<namespace>:<name>'"

/-- The message for a text that is no topic. -/
def TopicError.message : TopicError → String
  | segments topic fault => "invalid topic path '" ++ topic ++ "': " ++ fault.message
  | entity text => EntityId.errorMessage text

namespace DecodeError

/-- A name between grave accents. -/
def marked (s : String) : String := "`" ++ s ++ "`"

/-- What was found, in words. -/
def describe : Found → String
  | .null => "null"
  | .bool b => "boolean " ++ marked (if b then "true" else "false")
  | .int n => "integer " ++ marked (String.ofList n.text)
  | .float x => "floating point " ++ marked (String.ofList x.text)
  | .text s => "string " ++ Text.quoted s
  | .list => "sequence"
  | .object => "map"

/-- The names that would have been known. -/
def choices : List String → String
  | [a] => marked a
  | [a, b] => marked a ++ " or " ++ marked b
  | names => "one of " ++ ", ".intercalate (names.map marked)

/-- The detail of an error, if it has one. -/
def detail : DecodeError → Option String
  | unreadable => none
  | missingField name => some ("missing field " ++ marked name)
  | duplicateField name => some ("duplicate field " ++ marked name)
  | unknownVariant name known =>
      some ("unknown variant " ++ marked name ++ ", expected " ++ choices known)
  | wrongKind found wanted => some ("invalid type: " ++ describe found ++ ", expected " ++ wanted)
  | outOfRange n wanted =>
      some ("invalid value: " ++ describe (.int n) ++ ", expected " ++ wanted)
  | wrongLength length wanted =>
      some ("invalid length " ++ toString length ++ ", expected " ++ wanted)
  | entity text => some (EntityId.errorMessage text)
  | topic error => some error.message

/-- The error as a binary frame reports it: names are reported, the kinds
and sizes of what was found are not. -/
def terse : DecodeError → DecodeError
  | wrongKind _ _ => unreadable
  | outOfRange _ _ => unreadable
  | wrongLength _ _ => unreadable
  | e => e

end DecodeError

end DeviceTwin
