import TerrainTiles.Json.Basic

/-!
# Responses

What the tools answer. `Response.toJson` gives the members of each response in
their order.
-/

namespace TerrainTiles

structure SourceSummary where
  id : String
  name : String
  protocol : String
  resolution : Int
  coverage : String
  degrees : Double

structure SourceListResponse where
  sources : List SourceSummary
  default : String
  message : String

structure SourceResponse where
  id : String
  name : String
  protocol : String
  resolution : Int
  coverage : String
  bounds : List Double
  degrees : Double
  extension : String
  location : String
  license : String
  offline : Bool
  message : String

structure TileResponse where
  source : String
  lon : Double
  lat : Double
  tileName : String
  state : String
  available : Bool
  shape : List Int
  range : List Double
  localPath : String
  archivePath : String
  remoteEnabled : Bool
  message : String

structure PointResponse where
  source : String
  lon : Double
  lat : Double
  tileName : String
  elevation : Option Double
  interpolation : String
  available : Bool
  message : String

structure ReleaseResponse where
  source : Option String
  released : Nat
  message : String

structure StatusResponse where
  server : String
  version : String
  defaultSource : String
  sources : List String
  cache : String
  tracked : Nat
  states : List (String × Int)
  offline : List String
  message : String

inductive Response where
  | failure (error : String)
  | source (summary : SourceSummary)
  | sources (response : SourceListResponse)
  | detail (response : SourceResponse)
  | tile (response : TileResponse)
  | point (response : PointResponse)
  | release (response : ReleaseResponse)
  | status (response : StatusResponse)

open Json

def SourceSummary.toJson (r : SourceSummary) : Json := .object [
  ("id", string r.id), ("name", string r.name), ("protocol", string r.protocol),
  ("resolution_m", integer r.resolution), ("coverage", string r.coverage),
  ("tile_size_degrees", real r.degrees)]

def SourceListResponse.toJson (r : SourceListResponse) : Json := .object [
  ("sources", array (r.sources.map SourceSummary.toJson)), ("default", string r.default),
  ("message", string r.message)]

def SourceResponse.toJson (r : SourceResponse) : Json := .object [
  ("id", string r.id), ("name", string r.name), ("protocol", string r.protocol),
  ("resolution_m", integer r.resolution), ("coverage", string r.coverage),
  ("coverage_bounds", array (r.bounds.map real)), ("tile_size_degrees", real r.degrees),
  ("file_extension", string r.extension), ("remote_location", string r.location),
  ("license", string r.license), ("offline", bool r.offline), ("message", string r.message)]

def TileResponse.toJson (r : TileResponse) : Json := .object [
  ("source", string r.source), ("lon", real r.lon), ("lat", real r.lat),
  ("tile_name", string r.tileName), ("state", string r.state), ("available", bool r.available),
  ("shape", array (r.shape.map integer)), ("elevation_range", array (r.range.map real)),
  ("local_path", string r.localPath), ("archive_path", string r.archivePath),
  ("remote_enabled", bool r.remoteEnabled), ("message", string r.message)]

def PointResponse.toJson (r : PointResponse) : Json := .object [
  ("source", string r.source), ("lon", real r.lon), ("lat", real r.lat),
  ("tile_name", string r.tileName), ("elevation_m", ofOption real r.elevation),
  ("interpolation", string r.interpolation), ("available", bool r.available),
  ("message", string r.message)]

def ReleaseResponse.toJson (r : ReleaseResponse) : Json := .object [
  ("source", ofOption string r.source), ("released", ofNat r.released),
  ("message", string r.message)]

def StatusResponse.toJson (r : StatusResponse) : Json := .object [
  ("server", string r.server), ("version", string r.version),
  ("default_source", string r.defaultSource), ("available_sources", strings r.sources),
  ("cache_dir", string r.cache), ("tracked_tiles", ofNat r.tracked),
  ("tile_states", object (r.states.map fun (key, n) => (key, integer n))),
  ("offline_sources", strings r.offline), ("message", string r.message)]

def Response.toJson : Response → Json
  | failure error => .object [("error", string error)]
  | source r => r.toJson
  | sources r => r.toJson
  | detail r => r.toJson
  | tile r => r.toJson
  | point r => r.toJson
  | release r => r.toJson
  | status r => r.toJson

end TerrainTiles
