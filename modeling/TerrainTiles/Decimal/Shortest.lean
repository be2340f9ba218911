import TerrainTiles.Decimal.Basic

/-!
# Fewest digits that read back

Among the decimals that read back as a given binary number, `shortest` gives one
with the fewest digits and, among those, the nearest; a tie goes to the even
last digit. On the grid of a fixed number of digits only the two neighbours of
the exact value have to be tried, since a grid point that reads back has a
neighbour of the value between it and the value.
-/

namespace TerrainTiles.Binary

variable (f : Format)

def ReadsBack (units : Nat) (d : Decimal) : Prop :=
  (d.toBinary f).toUnits? = some (units : Int)

instance (units : Nat) (d : Decimal) : Decidable (ReadsBack f units d) := by
  unfold ReadsBack
  infer_instance

/-- The decimal with `count` digits that reads back and is nearest to `units`,
if there is one; `point` is the place of the value's decimal point. -/
def withDigits? (units : Nat) (point : Int) (count : Nat) : Option Decimal :=
  let exponent := point - count
  let (num, den) := Decimal.inSteps units f.one exponent
  let below : Decimal := ⟨num / den, exponent⟩
  let above : Decimal := ⟨num / den + 1, exponent⟩
  let nearer : Decimal := ⟨nearest num den, exponent⟩
  if ReadsBack f units nearer then some nearer
  else if ReadsBack f units below then some below
  else if ReadsBack f units above then some above
  else none

/-- The shortest decimal that reads back as a positive magnitude, without
trailing zeros. The exact expansion stands in where no count up to the
precision suffices; for the formats here that does not happen. -/
def shortest (units : Nat) : Decimal :=
  let point := decimalPoint units f.one
  let found := (List.range f.precision).findSome? fun k => withDigits? f units point (k + 1)
  let d := found.getD (exact f units)
  d.trim (d.text.length)

end TerrainTiles.Binary
