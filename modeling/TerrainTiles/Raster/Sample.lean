import TerrainTiles.Raster.Grid
import TerrainTiles.Raster.Transform

/-!
# Point samples

`nearest` takes the cell a point falls in. `bilinear` takes the four cells whose
centres surround the point and weights them by distance; the weights are double
precision, rounded to single precision when they meet a cell, and every product
and sum after that is rounded to single precision, from left to right.

A sample is not-a-number outside the grid, or where a cell it needs is void.
-/

namespace TerrainTiles

inductive Interpolation where
  | nearest
  | bilinear
  deriving DecidableEq, Repr

namespace Interpolation

def name : Interpolation → String
  | nearest => "nearest"
  | bilinear => "bilinear"

def ofName? (name : String) : Option Interpolation :=
  [nearest, bilinear].find? (·.name = name)

end Interpolation

namespace Sample

def half : Double := .ofDecimal false 5 (-1)

/-- The cell index a pixel coordinate falls in. -/
def index (x : Double) : Except Fault Int :=
  match x with
  | .nan => .error .nanCell
  | .infinite _ => .error .infiniteCell
  | x => .ok (x.floor?.getD 0)

/-- The cell at an index that can lie outside the grid. -/
def cellAt? (grid : Grid) (row column : Int) : Option Single :=
  if 0 ≤ row ∧ 0 ≤ column then grid.cell? row.toNat column.toNat else none

def widen (x : Single) : Double := x.convert Format.binary64

def narrow (x : Double) : Single := x.convert Format.binary32

def nearest (grid : Grid) (column row : Double) : Except Fault Double := do
  let r ← index row
  let c ← index column
  return match cellAt? grid r c with
    | some x => widen x
    | none => .nan

/-- The weighted sum of four cells; `dr` and `dc` are the distances from the
first row and column. -/
def blend (x00 x01 x10 x11 : Single) (dr dc : Double) : Single :=
  let nr := narrow (1 - dr)
  let nc := narrow (1 - dc)
  let fr := narrow dr
  let fc := narrow dc
  x00 * nr * nc + x01 * nr * fc + x10 * fr * nc + x11 * fr * fc

/-- The four cells around a point between cell centres. -/
def corners? (grid : Grid) (r c : Int) : Option (Single × Single × Single × Single) := do
  let x00 ← cellAt? grid r c
  let x01 ← cellAt? grid r (c + 1)
  let x10 ← cellAt? grid (r + 1) c
  let x11 ← cellAt? grid (r + 1) (c + 1)
  return (x00, x01, x10, x11)

/-- Coordinates count from the centre of the first cell. -/
def bilinear (grid : Grid) (column row : Double) : Except Fault Double := do
  let r ← index row
  let c ← index column
  match corners? grid r c with
  | none => return .nan
  | some (x00, x01, x10, x11) =>
    if x00.isNaN || x01.isNaN || x10.isNaN || x11.isNaN then return .nan
    return widen (blend x00 x01 x10 x11 (row - .ofInt r) (column - .ofInt c))

def sampleBy (grid : Grid) (method : Interpolation) (column row : Double) :
    Except Fault Double :=
  match method with
  | .nearest => nearest grid column row
  | .bilinear => bilinear grid (column - half) (row - half)

end Sample

namespace Grid

/-- The sample of a grid at a geographic point, by the method of that name. -/
def sample (grid : Grid) (transform : Transform) (lon lat : Double) (method : String) :
    Except Fault Double := do
  let (column, row) ← transform.locate lon lat
  match Interpolation.ofName? method with
  | some method => Sample.sampleBy grid method column row
  | none => throw (.unknownMethod method)

end Grid

end TerrainTiles
