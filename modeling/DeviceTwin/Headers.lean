/-
Headers of signals.

Headers are a finite map from texts to texts, in the order of the keys.
The keys that this library reads and writes are listed in `Key`; all
others pass through untouched. Every operation gives new headers and
leaves the old ones as they are.
-/
import DeviceTwin.Channel
import DeviceTwin.Keyed

namespace DeviceTwin

/-- A finite map from texts to texts. -/
structure Headers where
  entries : List (String × String)
  sorted : Keyed.Sorted entries
  deriving DecidableEq

namespace Headers

-- ================================================================ known keys

/-- Ties a reply to its request. -/
def correlationKey : String := "correlation-id"

/-- The name of the channel. -/
def channelKey : String := "channel"

/-- Whether the sender wants a reply. -/
def responseRequiredKey : String := "response-required"

/-- The subjects that may read the signal, as the server worked them out. -/
def readSubjectsKey : String := "read-subjects"

/-- Who sent the signal, as the server vouches for it. -/
def authorizationKey : String := "authorization-context"

/-- The acknowledgement labels that the sender asks for. -/
def requestedAcksKey : String := "requested-acks"

-- ================================================================ operations

/-- No headers. -/
def empty : Headers := ⟨[], Keyed.sorted_nil⟩

/-- The headers of a list of pairs in which a later pair wins. -/
def ofPairs (pairs : List (String × String)) : Headers :=
  ⟨Keyed.ofList pairs, Keyed.sorted_ofList pairs⟩

/-- The value under a key. -/
def get? (h : Headers) (key : String) : Option String := Keyed.find? key h.entries

/-- Whether a key has a value. -/
def contains (h : Headers) (key : String) : Bool := (h.get? key).isSome

/-- The number of keys. -/
def size (h : Headers) : Nat := h.entries.length

/-- Whether there are no headers. -/
def isEmpty (h : Headers) : Bool := h.entries.isEmpty

/-- The headers with a value put under a key. -/
def set (h : Headers) (key value : String) : Headers :=
  ⟨Keyed.insert key value h.entries, h.sorted.insert⟩

/-- The headers with a key taken out. -/
def without (h : Headers) (key : String) : Headers :=
  ⟨Keyed.erase key h.entries, h.sorted.erase⟩

@[simp] theorem get?_set_self (h : Headers) (key value : String) :
    (h.set key value).get? key = some value := Keyed.find?_insert_self ..

theorem get?_set_of_ne {key other : String} (hne : other ≠ key) (h : Headers) (value : String) :
    (h.set key value).get? other = h.get? other := Keyed.find?_insert_of_ne hne ..

@[simp] theorem get?_without_self (h : Headers) (key : String) :
    (h.without key).get? key = none := Keyed.find?_erase_self ..

theorem get?_without_of_ne {key other : String} (hne : other ≠ key) (h : Headers) :
    (h.without key).get? other = h.get? other := Keyed.find?_erase_of_ne hne ..

/-- Headers are determined by their values. -/
theorem ext_get? {h k : Headers} (heq : ∀ key, h.get? key = k.get? key) : h = k := by
  cases h
  cases k
  simpa using Keyed.Sorted.ext ‹_› ‹_› heq

-- ============================================================ known headers

/-- The correlation id, if there is one. -/
def correlationId (h : Headers) : Option String := h.get? correlationKey

/-- The headers with this correlation id. -/
def withCorrelationId (h : Headers) (id : String) : Headers := h.set correlationKey id

/-- The headers with a correlation id: their own, or else `fresh`. -/
def ensureCorrelationId (h : Headers) (fresh : String) : Headers :=
  if h.correlationId.isSome then h else h.withCorrelationId fresh

/-- The channel: twin unless the header names another one. -/
def channel (h : Headers) : Channel :=
  ((h.get? channelKey).bind Channel.ofName?).getD .twin

/-- The headers with the name of this channel. -/
def withChannel (h : Headers) (channel : Channel) : Headers := h.set channelKey channel.name

/-- Whether the sender wants a reply: unless the header is the word false
in letters of either case. -/
def isResponseRequired (h : Headers) : Bool :=
  match h.get? responseRequiredKey with
  | some raw => raw.toList.map Char.toLower != "false".toList
  | none => true

/-- The headers with this wish for a reply. -/
def withResponseRequired (h : Headers) (required : Bool) : Headers :=
  h.set responseRequiredKey (if required then "true" else "false")

end Headers

end DeviceTwin
