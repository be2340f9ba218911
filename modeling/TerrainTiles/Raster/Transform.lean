import TerrainTiles.Fault

/-!
# Affine transforms

A transform takes pixel coordinates to geographic ones:
`(a * column + b * row + c, d * column + e * row + f)`. Its inverse is computed
in double precision, every product and sum rounded, in the order written here.
-/

namespace TerrainTiles

structure Transform where
  a : Double
  b : Double
  c : Double
  d : Double
  e : Double
  f : Double
  deriving DecidableEq

namespace Transform

def coefficients (t : Transform) : List Double := [t.a, t.b, t.c, t.d, t.e, t.f]

def determinant (t : Transform) : Double := t.a * t.e - t.b * t.d

def inverse (t : Transform) : Except Fault Transform :=
  if t.determinant.eq 0 then .error .degenerateTransform
  else
    let scale := 1 / t.determinant
    let a := t.e * scale
    let b := -t.b * scale
    let d := -t.d * scale
    let e := t.a * scale
    .ok { a, b, c := -t.c * a - t.f * b, d, e, f := -t.c * d - t.f * e }

def apply (t : Transform) (x y : Double) : Double × Double :=
  (x * t.a + y * t.b + t.c, x * t.d + y * t.e + t.f)

/-- The pixel coordinates, column and row, of a geographic point. -/
def locate (t : Transform) (lon lat : Double) : Except Fault (Double × Double) :=
  t.inverse.map (·.apply lon lat)

end Transform

end TerrainTiles
