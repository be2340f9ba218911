/-!
# Sets of characters

A character class of the Unicode tables is a list of inclusive ranges of code
points.
-/

namespace TerrainTiles.Text

abbrev CodePoints := List (Nat × Nat)

namespace CodePoints

def contains (set : CodePoints) (c : Char) : Bool :=
  set.any fun (first, last) => first ≤ c.toNat && c.toNat ≤ last

theorem contains_iff (set : CodePoints) (c : Char) :
    set.contains c = true ↔ ∃ r ∈ set, r.1 ≤ c.toNat ∧ c.toNat ≤ r.2 := by
  simp [contains]

end CodePoints

end TerrainTiles.Text
