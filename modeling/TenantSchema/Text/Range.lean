/-!
# Ranges of code points

Tables of character properties list inclusive ranges of code points.
-/

namespace TenantSchema.Text

/-- Whether a code point lies in one of the inclusive ranges. -/
def inRanges (ranges : List (Nat × Nat)) (code : Nat) : Bool :=
  ranges.any fun (first, last) => first ≤ code && code ≤ last

end TenantSchema.Text
