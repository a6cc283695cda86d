/-!
Sets of characters given by ranges of code points.
-/
namespace StackExport.Text

/-- Every `stride`-th code point from `first` to `last`, both included. -/
structure CharacterRange where
  first : Nat
  last : Nat
  stride : Nat

namespace CharacterRange

/-- True when a code point belongs to a range. -/
def contains (r : CharacterRange) (n : Nat) : Bool :=
  r.first ≤ n && n ≤ r.last && (n - r.first) % r.stride == 0

/-- The range with the given ends and stride. -/
def ofTriple : Nat × Nat × Nat → CharacterRange
  | (first, last, stride) => ⟨first, last, stride⟩

end CharacterRange

/-- True when a code point belongs to one of the ranges. -/
def inRanges (ranges : Array (Nat × Nat × Nat)) (n : Nat) : Bool :=
  ranges.any fun r => (CharacterRange.ofTriple r).contains n

end StackExport.Text
