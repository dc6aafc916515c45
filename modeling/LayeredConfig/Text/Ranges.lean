/-!
# Sets of characters as ranges of code points

The tables of the text modules list closed ranges in ascending order. A character belongs to
the set when some range of the list holds its code point.
-/

namespace LayeredConfig.Text

/-- Closed ranges of code points. -/
abbrev Ranges := List (Nat × Nat)

/-- Whether some range holds the character. -/
def Ranges.holds (ranges : Ranges) (c : Char) : Bool :=
  ranges.any fun r => r.1 ≤ c.toNat && c.toNat ≤ r.2

end LayeredConfig.Text
