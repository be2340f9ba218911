import TerrainTiles.Raster.Sample

/-!
# Elevation tiles

A tile is a grid with its georeference. Disposing of a tile drops the grid; its
shape and range are then zeros, and it cannot be sampled any more.
-/

namespace TerrainTiles

structure Tile where
  name : String
  grid : Option Grid
  transform : Transform
  crs : Option String
  nodata : Option Double

namespace Tile

def isDisposed (tile : Tile) : Bool := tile.grid.isNone

def dispose (tile : Tile) : Tile := { tile with grid := none }

def shape (tile : Tile) : Nat × Nat :=
  match tile.grid with
  | some grid => (grid.height, grid.width)
  | none => (0, 0)

/-- The least and the greatest elevation; zeros where there is none. -/
def range (tile : Tile) : Double × Double :=
  match tile.grid.bind Grid.range? with
  | some (least, greatest) => (Sample.widen least, Sample.widen greatest)
  | none => (0, 0)

def sample (tile : Tile) (lon lat : Double) (method : String) : Except Fault Double :=
  match tile.grid with
  | some grid => grid.sample tile.transform lon lat method
  | none => .error (.disposed tile.name)

@[simp] theorem isDisposed_dispose (tile : Tile) : tile.dispose.isDisposed = true := rfl

@[simp] theorem dispose_dispose (tile : Tile) : tile.dispose.dispose = tile.dispose := rfl

end Tile

end TerrainTiles
