/-
Status codes of responses and acknowledgements.

A status is a 16-bit word. Three ranges of a hundred codes have a
meaning: 2xx is success, 4xx an error of the client, 5xx one of the
server. Every other code is none of these, so "not a failure" and
"success" are different things.
-/

namespace DeviceTwin

/-- A status code. -/
structure Status where
  code : UInt16
  deriving DecidableEq

namespace Status

/-- Everything went well. -/
def ok : Status := ⟨200⟩

/-- Something that the request depends on went wrong. -/
def failedDependency : Status := ⟨424⟩

/-- The codes 200 to 299. -/
def isSuccess (s : Status) : Bool := 200 ≤ s.code && s.code < 300

/-- The codes 400 to 499. -/
def isClientError (s : Status) : Bool := 400 ≤ s.code && s.code < 500

/-- The codes 500 to 599. -/
def isServerError (s : Status) : Bool := 500 ≤ s.code && s.code < 600

/-- The codes 400 to 599. -/
def isFailure (s : Status) : Bool := s.isClientError || s.isServerError

/-- The decimal text of the code. -/
def text (s : Status) : String := toString s.code.toNat

end Status

end DeviceTwin
