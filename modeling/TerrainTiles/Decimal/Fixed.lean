import TerrainTiles.Decimal.Layout

/-!
# Rounded number text

Two ways to write a number with a given number of digits, both rounded once from
the exact value with a half going to the even neighbour: `fixed` with a number of
decimal places, however large the number, and `general` with a number of
significant digits, without trailing zeros and with an exponent where the number
is large or small.
-/

namespace TerrainTiles.Binary

variable {f : Format}

private def signText (negative : Bool) (text : List Char) : String :=
  String.ofList (if negative then '-' :: text else text)

private def nonFinite : Binary f → Option String
  | .nan => some "nan"
  | .infinite negative => some (if negative then "-inf" else "inf")
  | .finite .. => none

/-- `places` digits after the point; `places` is at least one. -/
def fixed (places : Nat) (x : Binary f) : String :=
  match x with
  | .finite negative units _ =>
    let steps := Nat.pow 10 places
    let scaled := nearest (units * steps) f.one
    let whole := Nat.toDigits 10 (scaled / steps)
    signText negative (whole ++ '.' :: padded places (scaled % steps))
  | x => (nonFinite x).getD ""

def significant (count units : Nat) : Decimal :=
  let exponent := decimalPoint units f.one - count
  let (num, den) := Decimal.inSteps units f.one exponent
  ⟨nearest num den, exponent⟩

/-- `count` significant digits without trailing zeros; an exponent is written
where it is below `-4` or not below `count`. -/
def general (count : Nat) (x : Binary f) : String :=
  match x with
  | .finite negative units _ =>
    if units = 0 then signText negative ['0']
    else
      let rounded := significant (f := f) count units
      let d := rounded.trim rounded.text.length
      let e := d.point - 1
      let text :=
        if e < -4 ∨ (count : Int) ≤ e then scientific 2 d.text e
        else if 0 ≤ d.exponent then d.text ++ zeros d.exponent.toNat
        else positional d.text d.point
      signText negative text
  | x => (nonFinite x).getD ""

end TerrainTiles.Binary
