import TerrainTiles.Raster.Tile

/-!
# Rasters

A raster is one band of cells of a declared type, with an optional number that
marks cells without data. Decoding rounds every cell to single precision and
makes the cells void that equal the mark, itself rounded to single precision.
A raster whose cells are all void, or that has none, holds no product.
-/

namespace TerrainTiles

inductive CellType where
  | uint8
  | int16
  | uint16
  | int32
  | float32
  | float64
  deriving DecidableEq, Repr

namespace CellType

def bounds? : CellType → Option (Int × Int)
  | uint8 => some (0, 255)
  | int16 => some (-32768, 32767)
  | uint16 => some (0, 65535)
  | int32 => some (-2147483648, 2147483647)
  | float32 | float64 => none

def Holds (type : CellType) (x : Double) : Prop :=
  match type.bounds? with
  | some (least, greatest) => ∃ n : Int, least ≤ n ∧ n ≤ greatest ∧ x = .ofInt n
  | none => type = float32 → Sample.widen (Sample.narrow x) = x

/-- The integer nearest to a number on the way to zero. -/
def truncate? (x : Double) : Option Int :=
  if x.isNegative then (-x).floor?.map (- ·) else x.floor?

/-- What a cell of a type holds for a number, if it can hold it. -/
def store? (type : CellType) (x : Double) : Option Double :=
  match type.bounds? with
  | some (least, greatest) => do
    let n ← truncate? x
    if least ≤ n ∧ n ≤ greatest then some (.ofInt n) else none
  | none => if type = float32 then some (Sample.widen (Sample.narrow x)) else some x

end CellType

structure Raster where
  type : CellType
  rows : List (List Double)
  nodata : Option Double
  transform : Transform
  epsg : Option Int

namespace Raster

/-- A raster of the type, its cells and the mark as the type holds them. The
mark of an integer raster is kept as declared. -/
def ofNumbers? (type : CellType) (rows : List (List Double)) (nodata : Option Double)
    (transform : Transform) (epsg : Option Int) : Option Raster := do
  let cells ← rows.mapM (·.mapM type.store?)
  let mark := if type = .float32 then nodata.map (Sample.widen ∘ Sample.narrow) else nodata
  return { type, rows := cells, nodata := mark, transform, epsg }

/-- A cell in single precision, void if it equals the mark. -/
def decodeCell (nodata : Option Double) (x : Double) : Single :=
  let cell := Sample.narrow x
  match nodata with
  | some mark => if cell.eq (Sample.narrow mark) then .nan else cell
  | none => cell

def grid? (raster : Raster) : Option Grid :=
  Grid.ofRows? (raster.rows.map (·.map (decodeCell raster.nodata)))

def crs (raster : Raster) : Option String := raster.epsg.map fun code => s!"EPSG:{code}"

/-- The tile of a raster, unless it holds no product. -/
def decode (raster : Raster) (name : String) : Option Tile := do
  let grid ← raster.grid?
  if grid.isVoid then none
  else some {
    name, grid := some grid, transform := raster.transform, crs := raster.crs
    nodata := raster.nodata }

end Raster

end TerrainTiles
