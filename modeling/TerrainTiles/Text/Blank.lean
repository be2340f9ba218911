/-!
# Blank characters

The characters that carry the Unicode property of white space. Text that stands
for a number may have them on both sides.
-/

namespace TerrainTiles.Text

def isBlank (c : Char) : Bool :=
  let n := c.toNat
  if n < 0x80 then n = 0x20 || (0x09 ≤ n && n ≤ 0x0d)
  else n = 0x85 || n = 0xa0 || n = 0x1680 || (0x2000 ≤ n && n ≤ 0x200a) || n = 0x2028 ||
    n = 0x2029 || n = 0x202f || n = 0x205f || n = 0x3000

def dropTrailing (p : Char → Bool) (cs : List Char) : List Char :=
  (cs.reverse.dropWhile p).reverse

def trimBlanks (cs : List Char) : List Char := dropTrailing isBlank (cs.dropWhile isBlank)

/-- Every character that core calls white space is blank. -/
theorem isBlank_of_isWhitespace (c : Char) (h : c.isWhitespace = true) : isBlank c = true := by
  simp only [Char.isWhitespace, Bool.or_eq_true, decide_eq_true_eq, or_assoc] at h
  rcases h with h | h | h | h <;> subst h <;> decide

end TerrainTiles.Text
