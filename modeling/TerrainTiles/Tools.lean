import TerrainTiles.Manager.Request
import TerrainTiles.Response.Text

/-!
# Tools

The seven calls that clients make, each answered with text. A tool never fails:
a fault becomes a response that tells its message. Only acquiring a tile or an
elevation reaches for files and remote places.
-/

namespace TerrainTiles

def serverName : String := "chuk-mcp-dem-tiles"
def serverVersion : String := "0.1.0"

inductive Tool where
  | listSources
  | describeSource (source : String)
  | status
  | getTile (lon lat : Double) (source : Option String)
  | tileInfo (lon lat : Double) (source : Option String)
  | pointElevation (lon lat : Double) (source : Option String) (interpolation : String)
  | release (source : Option String)

namespace Tool

def names : List String := [
  "dem_list_sources", "dem_describe_source", "dem_status", "dem_get_tile", "dem_tile_info",
  "dem_point_elevation", "dem_release_tiles"]

-- ---------------------------------------------------------------------------
-- Sources
-- ---------------------------------------------------------------------------

def summary (source : Source) : SourceSummary where
  id := source.id
  name := source.name
  protocol := source.protocol
  resolution := source.resolution
  coverage := source.coverage
  degrees := .ofInt source.degrees

def sourceList (m : Manager) : SourceListResponse where
  sources := Source.all.map summary
  default := m.settings.defaultSource
  message := s!"{Source.all.length} tile sources available"

def sourceDetail (m : Manager) (source : Source) : SourceResponse where
  id := source.id
  name := source.name
  protocol := source.protocol
  resolution := source.resolution
  coverage := source.coverage
  bounds := [source.bounds.west, source.bounds.south, source.bounds.east,
    source.bounds.north].map Binary.ofInt
  degrees := .ofInt source.degrees
  extension := source.extension
  location := source.location m.settings.environment
  license := source.license
  offline := m.isOffline source.id
  message := s!"Source: {source.name} ({source.resolution}m, {source.coverage})"

def statusOf (m : Manager) : StatusResponse where
  server := serverName
  version := serverVersion
  defaultSource := m.settings.defaultSource
  sources := sourceNames
  cache := m.settings.cache.text
  tracked := m.trackedCount
  states := m.stateCounts.map fun (state, n) => (state.text, (n : Int))
  offline := m.offlineSources
  message := s!"{serverName} v{serverVersion} ({sourceNames.length} sources, " ++
    s!"{m.trackedCount} tiles tracked)"

-- ---------------------------------------------------------------------------
-- Tiles
-- ---------------------------------------------------------------------------

def tileMessage (r : TileReport) : String :=
  if r.available then s!"Tile {r.tileName} ready ({r.shape.1}x{r.shape.2})"
  else if r.state = .absent then
    s!"Tile {r.tileName} is not available (no data at this location)"
  else
    let reason := if r.message = "" then r.state.text else r.message
    s!"Tile {r.tileName} could not be acquired right now ({reason})"

def tileResponse (r : TileReport) (lon lat : Double) (message : String) : TileResponse where
  source := r.source
  lon := lon
  lat := lat
  tileName := r.tileName
  state := r.state.text
  available := r.available
  shape := [(r.shape.1 : Int), (r.shape.2 : Int)]
  range := [r.range.1, r.range.2]
  localPath := r.localPath
  archivePath := r.archivePath
  remoteEnabled := r.remoteEnabled
  message := message

def pointResponse (r : PointReport) (lon lat : Double) (interpolation : String) :
    PointResponse :=
  let elevation := if r.available && !r.elevation.isNaN then some r.elevation else none
  let message := match elevation with
    | some x => s!"Elevation at point: {x.fixed 1}m"
    | none => s!"No elevation data at ({Fault.coordinate lon}, {Fault.coordinate lat})"
  { source := r.source, lon, lat, tileName := r.tileName, elevation, interpolation
    available := elevation.isSome, message }

-- ---------------------------------------------------------------------------
-- Calls
-- ---------------------------------------------------------------------------

def respond : Tool → Act Manager Response
  | listSources => do return .sources (sourceList (← Act.own))
  | describeSource name => do
    let source ← Act.ofExcept (Source.find name)
    return .detail (sourceDetail (← Act.own) source)
  | status => do return .status (statusOf (← Act.own))
  | getTile lon lat source => do
    let r ← Manager.getTile lon lat source
    return .tile (tileResponse r lon lat (tileMessage r))
  | tileInfo lon lat source => do
    let r ← Manager.tileStatus lon lat source
    return .tile (tileResponse r lon lat s!"Tile {r.tileName} is {r.state.text}")
  | pointElevation lon lat source interpolation => do
    if (Interpolation.ofName? interpolation).isNone then
      Act.fail (.invalidInterpolation interpolation)
    let r ← Manager.getElevation lon lat source interpolation
    return .point (pointResponse r lon lat interpolation)
  | release source => do
    let n ← Manager.release source
    return .release { source, released := n, message := s!"Released {n} tile descriptors" }

def formatted (tool : Tool) (mode : String) : Act Manager String := do
  Act.ofExcept ((← tool.respond).format mode)

def call (tool : Tool) (mode : String) : Act Manager String := do
  match ← (tool.formatted mode).attempt with
  | .ok text => return text
  | .error fault => Act.ofExcept ((Response.failure fault.message).format mode)

end Tool

end TerrainTiles
