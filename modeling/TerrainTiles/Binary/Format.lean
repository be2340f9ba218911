/-!
# Binary floating-point formats

A format is given by the precision of its significand, by the exponent of its
smallest positive number and by a bound on its finite numbers. Magnitudes are
counted in units of that smallest number, so a finite magnitude is a natural
number and equal magnitudes are equal naturals. `Format.Fits` says which
naturals a format represents; nothing here depends on an encoding in bits.
-/

namespace TerrainTiles

structure Format where
  /-- Significant bits, the leading one included. -/
  precision : Nat
  /-- The unit is `2 ^ -unitExponent`, the smallest positive magnitude. -/
  unitExponent : Nat
  /-- Every finite magnitude is below `2 ^ width` units. -/
  width : Nat
  precision_pos : 0 < precision := by decide
  precision_le_width : precision ≤ width := by decide

namespace Format

/-- The 64-bit format: 53 significant bits, from `2 ^ -1074` to below `2 ^ 1024`. -/
def binary64 : Format := { precision := 53, unitExponent := 1074, width := 2098 }

/-- The 32-bit format: 24 significant bits, from `2 ^ -149` to below `2 ^ 128`. -/
def binary32 : Format := { precision := 24, unitExponent := 149, width := 277 }

variable (f : Format)

def one : Nat := Nat.pow 2 f.unitExponent

/-- The exponent of the gap between neighbouring magnitudes around `units`;
zero throughout the lowest binades. -/
def gapExponent (units : Nat) : Nat := units.log2 + 1 - f.precision

def gap (units : Nat) : Nat := Nat.pow 2 (f.gapExponent units)

def bound : Nat := Nat.pow 2 f.width

def Fits (units : Nat) : Prop := f.gap units ∣ units ∧ units < f.bound

instance (units : Nat) : Decidable (f.Fits units) := by
  unfold Fits
  infer_instance

theorem one_pos : 0 < f.one := Nat.two_pow_pos _

theorem gap_pos (units : Nat) : 0 < f.gap units := Nat.two_pow_pos _

theorem fits_zero : f.Fits 0 := ⟨Nat.dvd_zero _, Nat.two_pow_pos _⟩

end Format

end TerrainTiles
