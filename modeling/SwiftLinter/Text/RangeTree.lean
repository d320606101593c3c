/-!
# Sets of code points given by ranges

A character class of the Unicode standard is a long list of disjoint code point
ranges in increasing order.  `RangeTree` holds such a list as a balanced search
tree, so that membership takes a logarithmic number of comparisons.
-/

namespace SwiftLinter

/-- A search tree of closed code point ranges. -/
inductive RangeTree where
  | empty
  | node (below : RangeTree) (first last : Nat) (above : RangeTree)

namespace RangeTree

/-- Membership of a code point, by descending towards the range that could hold it. -/
def contains (code : Nat) : RangeTree → Bool
  | .empty => false
  | .node below first last above =>
      if code < first then below.contains code
      else if last < code then above.contains code
      else true

/-- Builds a tree of the given height from the front of an increasing list of
ranges, and returns the ranges that did not fit. -/
def grow : Nat → List (Nat × Nat) → RangeTree × List (Nat × Nat)
  | 0, ranges => (.empty, ranges)
  | height + 1, ranges =>
      match grow height ranges with
      | (below, []) => (below, [])
      | (below, (first, last) :: rest) =>
          let (above, remaining) := grow height rest
          (.node below first last above, remaining)

/-- The tree of an increasing list of disjoint ranges.  A tree of height `h`
has room for `2 ^ h - 1` ranges, so one more than the binary logarithm is enough. -/
def ofRanges (ranges : List (Nat × Nat)) : RangeTree :=
  (grow (Nat.log2 ranges.length + 1) ranges).1

end RangeTree

end SwiftLinter
