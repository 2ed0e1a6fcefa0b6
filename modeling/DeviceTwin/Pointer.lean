/-
Paths into the tree of an entity.

A pointer is a list of segments. Reading never fails: the text is cut at
its slashes and empty pieces are dropped, so runs of slashes and slashes
at either end make no difference, and no segment is empty or holds a
slash. The root has no segments and is written as a single slash.
-/
import DeviceTwin.Text.Split

namespace DeviceTwin

/-- A path into the tree of an entity. -/
structure Pointer where
  segments : List String
  proper : ∀ s ∈ segments, s ≠ "" ∧ '/' ∉ s.toList
  deriving DecidableEq

namespace Pointer

/-- The path to the whole entity. -/
def root : Pointer := ⟨[], by simp⟩

/-- The pieces of a text that are not empty. -/
def pieces (s : String) : List String :=
  ((Text.splitAt '/' s.toList).filter (· ≠ [])).map String.ofList

theorem proper_of_mem_pieces {s piece : String} (h : piece ∈ pieces s) :
    piece ≠ "" ∧ '/' ∉ piece.toList := by
  obtain ⟨cs, hcs, rfl⟩ := List.mem_map.1 h
  obtain ⟨hmem, hne⟩ := List.mem_filter.1 hcs
  refine ⟨fun he => ?_, ?_⟩
  · have : (String.ofList cs).toList = "".toList := by rw [he]
    simp_all
  · simpa using Text.not_mem_of_mem_splitAt hmem

/-- Reads a pointer; every text is one. -/
def parse (s : String) : Pointer := ⟨pieces s, fun _ h => proper_of_mem_pieces h⟩

/-- The path that goes on with the segments of a text. -/
def append (p : Pointer) (s : String) : Pointer :=
  ⟨p.segments ++ (parse s).segments, fun t h =>
    (List.mem_append.1 h).elim (p.proper t) ((parse s).proper t)⟩

/-- The text of a pointer: a slash before each segment. -/
def text (p : Pointer) : String :=
  if p.segments.isEmpty then "/"
  else String.ofList (p.segments.flatMap fun s => '/' :: s.toList)

/-- Whether this is the root. -/
def isRoot (p : Pointer) : Bool := p.segments.isEmpty

end Pointer

end DeviceTwin
