import TerrainTiles.Json.Field
import TerrainTiles.Response.Basic

/-!
# Reading responses

A response is read from a JSON object by its name. Every field is required but
the elevation of a point and the source of a release, and no other member is
taken.
-/

namespace TerrainTiles.Response

open Json

/-- Reads a record that has these fields and no others. -/
def exactly {α : Type} (record : Record) (fields : List String) (read : Checked α) : Checked α :=
  (fun a _ => a) <$> read <*> record.closed fields

def readSummary (r : Record) : Checked SourceSummary :=
  exactly r ["id", "name", "protocol", "resolution_m", "coverage", "tile_size_degrees"] <|
    SourceSummary.mk <$> r.required "id" readString <*> r.required "name" readString <*>
      r.required "protocol" readString <*> r.required "resolution_m" readInteger <*>
      r.required "coverage" readString <*> r.required "tile_size_degrees" readReal

def readSources (r : Record) : Checked SourceListResponse :=
  exactly r ["sources", "default", "message"] <|
    SourceListResponse.mk <$> r.required "sources" (readList (readRecord readSummary)) <*>
      r.required "default" readString <*> r.required "message" readString

def readDetail (r : Record) : Checked SourceResponse :=
  exactly r ["id", "name", "protocol", "resolution_m", "coverage", "coverage_bounds",
      "tile_size_degrees", "file_extension", "remote_location", "license", "offline",
      "message"] <|
    SourceResponse.mk <$> r.required "id" readString <*> r.required "name" readString <*>
      r.required "protocol" readString <*> r.required "resolution_m" readInteger <*>
      r.required "coverage" readString <*> r.required "coverage_bounds" (readList readReal) <*>
      r.required "tile_size_degrees" readReal <*> r.required "file_extension" readString <*>
      r.required "remote_location" readString <*> r.required "license" readString <*>
      r.required "offline" readBool <*> r.required "message" readString

def readTile (r : Record) : Checked TileResponse :=
  exactly r ["source", "lon", "lat", "tile_name", "state", "available", "shape",
      "elevation_range", "local_path", "archive_path", "remote_enabled", "message"] <|
    TileResponse.mk <$> r.required "source" readString <*> r.required "lon" readReal <*>
      r.required "lat" readReal <*> r.required "tile_name" readString <*>
      r.required "state" readString <*> r.required "available" readBool <*>
      r.required "shape" (readList readInteger) <*>
      r.required "elevation_range" (readList readReal) <*>
      r.required "local_path" readString <*> r.required "archive_path" readString <*>
      r.required "remote_enabled" readBool <*> r.required "message" readString

def readPoint (r : Record) : Checked PointResponse :=
  exactly r ["source", "lon", "lat", "tile_name", "elevation_m", "interpolation", "available",
      "message"] <|
    PointResponse.mk <$> r.required "source" readString <*> r.required "lon" readReal <*>
      r.required "lat" readReal <*> r.required "tile_name" readString <*>
      r.optional "elevation_m" readReal <*> r.required "interpolation" readString <*>
      r.required "available" readBool <*> r.required "message" readString

def readRelease (r : Record) : Checked ReleaseResponse :=
  exactly r ["source", "released", "message"] <|
    ReleaseResponse.mk <$> r.optional "source" readString <*>
      r.required "released" readNatural <*> r.required "message" readString

def readStatus (r : Record) : Checked StatusResponse :=
  exactly r ["server", "version", "default_source", "available_sources", "cache_dir",
      "tracked_tiles", "tile_states", "offline_sources", "message"] <|
    StatusResponse.mk <$> r.required "server" readString <*> r.required "version" readString <*>
      r.required "default_source" readString <*>
      r.required "available_sources" (readList readString) <*>
      r.required "cache_dir" readString <*> r.required "tracked_tiles" readNatural <*>
      r.required "tile_states" (readTable readInteger) <*>
      r.required "offline_sources" (readList readString) <*> r.required "message" readString

inductive Form where
  | failure
  | source
  | sources
  | detail
  | tile
  | point
  | release
  | status
  deriving DecidableEq, Repr

/-- Reads a response of a form from the members of an object. -/
def read (form : Form) (r : Record) : Checked Response :=
  match form with
  | .failure => exactly r ["error"] (Response.failure <$> r.required "error" readString)
  | .source => Response.source <$> readSummary r
  | .sources => Response.sources <$> readSources r
  | .detail => Response.detail <$> readDetail r
  | .tile => Response.tile <$> readTile r
  | .point => Response.point <$> readPoint r
  | .release => Response.release <$> readRelease r
  | .status => Response.status <$> readStatus r

end TerrainTiles.Response
