/-! Properties of characters are kept as tables of code point ranges. -/

namespace DesignTokens.Text

/-- Ascending, disjoint ranges of code points, both ends included. -/
abbrev Ranges := List (Nat × Nat)

/-- The search stops at the first range that starts beyond the code point. -/
def Ranges.covers : Ranges → Nat → Bool
  | [], _ => false
  | (first, last) :: rest, code => if code < first then false else code ≤ last || covers rest code

end DesignTokens.Text
