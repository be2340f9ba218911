import TerrainTiles.Decimal.Shortest

/-!
# Number text

`Layout.write` sets the shortest digits of a number as text. What differs from
one text format to the next is a record: the scientific exponents that are
written positionally, the least width of a written exponent, and the words for
what is not finite. Positional text always has a decimal point with a digit
after it.
-/

namespace TerrainTiles

structure Layout where
  /-- Least scientific exponent that is written positionally. -/
  lowest : Int
  /-- Greatest scientific exponent that is written positionally. -/
  highest : Int
  exponentDigits : Nat
  nan : String
  infinity : String
  minusInfinity : String

namespace Layout

/-- Numbers in messages: `1e-05`, `0.0001`, `1e+16`, `nan`. -/
def message : Layout where
  lowest := -4
  highest := 15
  exponentDigits := 2
  nan := "nan"
  infinity := "inf"
  minusInfinity := "-inf"

/-- Numbers in JSON text: `1e-6`, `0.00001`, `1e+16`; what is not finite is null. -/
def json : Layout where
  lowest := -5
  highest := 15
  exponentDigits := 1
  nan := "null"
  infinity := "null"
  minusInfinity := "null"

end Layout

def zeros (count : Nat) : List Char := List.replicate count '0'

/-- `n` with at least `width` digits, zeros in front. -/
def padded (width n : Nat) : List Char :=
  let digits := Nat.toDigits 10 n
  zeros (width - digits.length) ++ digits

/-- An integer of at least `width` characters, zeros between the sign and the digits. -/
def paddedInt (width : Nat) (n : Int) : String :=
  String.ofList (if n < 0 then '-' :: padded (width - 1) n.natAbs else padded width n.natAbs)

/-- A signed exponent after its mark. -/
def exponentText (width : Nat) (e : Int) : List Char :=
  'e' :: (if e < 0 then '-' else '+') :: padded width e.natAbs

/-- Digits with the decimal point at `point`; a fraction is always shown. -/
def positional (digits : List Char) (point : Int) : List Char :=
  if point ≤ 0 then '0' :: '.' :: (zeros (-point).toNat ++ digits)
  else
    let whole := point.toNat
    if digits.length ≤ whole then digits ++ zeros (whole - digits.length) ++ ['.', '0']
    else digits.take whole ++ '.' :: digits.drop whole

/-- One digit before the point, the rest after it, and the exponent. -/
def scientific (width : Nat) (digits : List Char) (e : Int) : List Char :=
  let mantissa := match digits with
    | [] => []
    | [d] => [d]
    | d :: rest => d :: '.' :: rest
  mantissa ++ exponentText width e

namespace Layout

def magnitude (layout : Layout) (d : Decimal) : List Char :=
  let e := d.point - 1
  if layout.lowest ≤ e ∧ e ≤ layout.highest then positional d.text d.point
  else scientific layout.exponentDigits d.text e

def write (layout : Layout) {f : Format} : Binary f → String
  | .nan => layout.nan
  | .infinite negative => if negative then layout.minusInfinity else layout.infinity
  | .finite negative units _ =>
    let digits := if units = 0 then ['0', '.', '0'] else layout.magnitude (Binary.shortest f units)
    String.ofList (if negative then '-' :: digits else digits)

end Layout

end TerrainTiles
