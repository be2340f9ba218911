import TerrainTiles.LocalCopy
import TerrainTiles.Source.Basic

/-!
# The grid of a source

A point inside the bounds of a source, edges included, falls in one tile. The
index is computed in double precision. Columns and rows are counted from one,
and a point on the far edge belongs to the last column or row; corner indices
are the floors of the coordinates.
-/

namespace TerrainTiles

/-- Column and row, or latitude and longitude of the corner. -/
abbrev TileIndex := Int × Int

namespace Bounds

/-- Whether a point lies within the bounds; a coordinate that is not a number does not. -/
def contains (bounds : Bounds) (lon lat : Double) : Bool :=
  Binary.le (.ofInt bounds.west) lon && lon.le (.ofInt bounds.east) &&
    (Binary.le (.ofInt bounds.south) lat && lat.le (.ofInt bounds.north))

end Bounds

namespace Source

/-- The greatest integer not above a finite number. -/
def floor (x : Double) : Int := x.floor?.getD 0

def columns (source : Source) : Int := 360 / source.degrees

/-- How many tiles there are from 60 degrees north to 60 degrees south. -/
def rows (source : Source) : Int := 120 / source.degrees

def indexAt (source : Source) (lon lat : Double) : TileIndex :=
  match source.naming with
  | .columnRow =>
    let size : Double := .ofInt source.degrees
    (min (floor ((lon + 180) / size) + 1) source.columns,
      min (floor ((60 - lat) / size) + 1) source.rows)
  | .corner => (floor lat, floor lon)

def index (source : Source) (lon lat : Double) : Except Fault TileIndex :=
  if source.bounds.contains lon lat then .ok (source.indexAt lon lat)
  else .error (.outsideCoverage source.name lon lat)

/-- Hemispheres and degrees of a corner: `N46E007`. -/
def cornerName (lat lon : Int) : String :=
  let northSouth := if 0 ≤ lat then "N" else "S"
  let eastWest := if 0 ≤ lon then "E" else "W"
  northSouth ++ paddedInt 2 lat.natAbs ++ eastWest ++ paddedInt 3 lon.natAbs

def stem (naming : Naming) (index : TileIndex) : String :=
  match naming with
  | .columnRow => "srtm_" ++ paddedInt 2 index.1 ++ "_" ++ paddedInt 2 index.2
  | .corner => cornerName index.1 index.2

def fileName (source : Source) (index : TileIndex) : String :=
  stem source.naming index ++ source.extension

def tileName (source : Source) (lon lat : Double) : Except Fault String :=
  (source.index lon lat).map source.fileName

/-- Where a tile is kept below a cache directory. -/
def localCopy (source : Source) (cache : Path) (tile : String) : LocalCopy where
  plain := cache / source.id / tile
  template := source.template

end Source

end TerrainTiles
