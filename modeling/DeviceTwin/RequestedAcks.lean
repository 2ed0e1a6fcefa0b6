/-
The labels that a signal asks to be acknowledged.

They stand in one header, as a JSON list of texts. A header that is
anything else asks for nothing, even if a part of it could be read.
-/
import DeviceTwin.Json.Reader
import DeviceTwin.Json.Writer

namespace DeviceTwin.Headers

/-- The labels in the header, in order. -/
def requestedAcks (h : Headers) : List String :=
  match h.get? requestedAcksKey with
  | none => []
  | some raw =>
      match Json.decode (Outline.asList .text 0 fun _ => Outline.asText) raw with
      | .ok labels => labels
      | .error _ => []

/-- The headers that ask for these labels. -/
def withRequestedAcks (h : Headers) (labels : List String) : Headers :=
  h.set requestedAcksKey (Json.text (.list (labels.map .text)))

end DeviceTwin.Headers
