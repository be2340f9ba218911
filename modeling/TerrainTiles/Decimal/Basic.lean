import TerrainTiles.Binary.Basic

/-!
# Decimal numbers

A decimal is a natural number of steps of a power of ten. It is what a number
is written with and read from: `Decimal.toBinary` rounds it to a format, and
`Binary.exact` gives the finite expansion that every binary number has.
-/

namespace TerrainTiles

/-- `digits * 10 ^ exponent`. -/
structure Decimal where
  digits : Nat
  exponent : Int
  deriving DecidableEq, Repr

namespace Decimal

def toBinary (f : Format) (d : Decimal) (negative : Bool := false) : Binary f :=
  .ofDecimal negative d.digits d.exponent

/-- `num / den` of a step of `10 ^ exponent`, as a quotient of naturals. -/
def inSteps (num den : Nat) (exponent : Int) : Nat × Nat :=
  if 0 ≤ exponent then (num, den * Nat.pow 10 exponent.toNat)
  else (num * Nat.pow 10 (-exponent).toNat, den)

/-- Drops trailing zeros, at most `fuel` of them; the value stays. -/
def trim : Nat → Decimal → Decimal
  | 0, d => d
  | fuel + 1, d =>
    if d.digits % 10 = 0 ∧ d.digits ≠ 0 then trim fuel ⟨d.digits / 10, d.exponent + 1⟩ else d

def text (d : Decimal) : List Char := Nat.toDigits 10 d.digits

/-- The place of the decimal point: `10 ^ (point - 1) ≤ value < 10 ^ point`. -/
def point (d : Decimal) : Int := d.text.length + d.exponent

end Decimal

/-- How often `num` has to be multiplied by ten to reach `den`, at most `fuel` times. -/
def tenfolds : Nat → Nat → Nat → Nat
  | 0, _, _ => 0
  | fuel + 1, num, den => if den ≤ num then 0 else tenfolds fuel (num * 10) den + 1

/-- The place of the decimal point of a positive quotient. -/
def decimalPoint (num den : Nat) : Int :=
  if den ≤ num then (Nat.toDigits 10 (num / den)).length
  else 1 - (tenfolds (den.log2 + 1) num den : Int)

namespace Binary

variable (f : Format)

/-- The finite decimal expansion of a magnitude: a unit is `5 ^ n` steps of `10 ^ -n`. -/
def exact (units : Nat) : Decimal := ⟨units * Nat.pow 5 f.unitExponent, -(f.unitExponent : Int)⟩

end Binary

end TerrainTiles
