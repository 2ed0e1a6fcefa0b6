/-
Outlines: what stands in a frame as far as it could be read.

A reader of a wire format turns the whole frame into one tree before
anything is decoded. It never fails; where the spelling of the frame
breaks off, the tree ends in the leaf `broken`, and everything in front
of it is there. A decoder then walks the tree in the order of the frame,
so of two faults the first one counts, whichever of them is a broken
spelling. Two more leaves stand for things that are spelled well and
mean nothing: `notFinite` for infinities and not-a-numbers, which count
as null in a free value, and `unfit` for the rest (numbers out of range,
halves of surrogate pairs, extension types), which may only be skipped.
-/
import DeviceTwin.Value

namespace DeviceTwin

/-- The tree of a frame. -/
inductive Outline where
  | null
  | bool (b : Bool)
  | int (n : Integer)
  | float (x : Double)
  | notFinite
  | text (s : String)
  | bytes (b : List UInt8)
  | list (items : List Outline)
  | object (entries : List (Outline × Outline))
  | unfit
  | broken

mutual

/-- The outline that a value has before it is written. -/
def Value.outline : Value → Outline
  | .null => .null
  | .bool b => .bool b
  | .int n => .int n
  | .float x => .float x
  | .text s => .text s
  | .list items => .list (Value.outlines items)
  | .object entries => .object (Value.outlineEntries entries)

/-- The outlines of items. -/
def Value.outlines : List Value → List Outline
  | [] => []
  | v :: vs => v.outline :: Value.outlines vs

/-- The outlines of entries. -/
def Value.outlineEntries : List (String × Value) → List (Outline × Outline)
  | [] => []
  | (k, v) :: es => (.text k, v.outline) :: Value.outlineEntries es

end

end DeviceTwin
