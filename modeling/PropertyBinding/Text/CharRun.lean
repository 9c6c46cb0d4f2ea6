/-! # Runs of characters: the form in which character tables are kept

Many alphabets have their capitals side by side, many others put every capital just
before its small letter.  A run is therefore given by its first and last code
point and by the distance between neighbours.
-/
namespace PropertyBinding
namespace Text

/-- The code points `first`, `first + stride`, … up to `last`. -/
structure CharRun where
  first : Nat
  last : Nat
  stride : Nat
  deriving DecidableEq

namespace CharRun

/-- Whether a code point belongs to the run. -/
def contains (run : CharRun) (code : Nat) : Bool :=
  run.first ≤ code && code ≤ run.last && (code - run.first) % run.stride == 0

theorem contains_iff (run : CharRun) (code : Nat) :
    run.contains code = true ↔
      run.first ≤ code ∧ code ≤ run.last ∧ (code - run.first) % run.stride = 0 := by
  simp [contains, and_assoc]

end CharRun

/-- Whether a code point belongs to one of the closed ranges. -/
def inRanges (ranges : List (Nat × Nat)) (code : Nat) : Bool :=
  ranges.any fun range => range.1 ≤ code && code ≤ range.2

end Text
end PropertyBinding
