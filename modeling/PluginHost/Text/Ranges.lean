/-! # Sets of characters as ranges

    A character property is stored as the list of its inclusive code point
    ranges.  `inRanges` is membership. -/

namespace PluginHost.Text

/-- Does one of the inclusive ranges hold the code point of `c`? -/
def inRanges (ranges : List (Nat × Nat)) (c : Char) : Bool :=
  ranges.any fun range => range.1 ≤ c.toNat && c.toNat ≤ range.2

theorem inRanges_iff {ranges : List (Nat × Nat)} {c : Char} :
    inRanges ranges c = true ↔ ∃ range ∈ ranges, range.1 ≤ c.toNat ∧ c.toNat ≤ range.2 := by
  simp [inRanges]

end PluginHost.Text
