import TerrainTiles.Decimal.Fixed
import TerrainTiles.Fault
import TerrainTiles.Response.Basic

/-!
# Responses as text

The form for people: a few lines for each kind of response. A tile that is
available is described by its shape and range, which have to have two numbers
each. `Response.format` writes the form of an output mode; every mode but `text`
is JSON.
-/

namespace TerrainTiles

private def lines (ls : List String) : String := "\n".intercalate ls

private def commas (items : List String) : String := ", ".intercalate items

def SourceSummary.text (r : SourceSummary) : String :=
  s!"{r.id}: {r.name} ({r.resolution}m, {r.coverage}, " ++
    s!"{r.degrees.general 6} deg tiles via {r.protocol})"

def SourceListResponse.text (r : SourceListResponse) : String :=
  lines ([r.message, s!"Default: {r.default}", ""] ++ r.sources.map fun s => "  " ++ s.text)

def SourceResponse.text (r : SourceResponse) : String :=
  let bounds := commas (r.bounds.map (Binary.fixed 1))
  lines ([
    s!"{r.name} ({r.id})",
    s!"Resolution: {r.resolution}m",
    s!"Coverage: {r.coverage} [{bounds}]",
    s!"Tiles: {r.degrees.general 6} deg ({r.extension})",
    s!"Remote: {r.location} ({r.protocol})",
    s!"License: {r.license}"] ++
    if r.offline then ["Status: remote offline for this session"] else [])

/-- The two numbers of a list; a shorter one is a fault. -/
def firstTwo {α : Type} : List α → Except Fault (α × α)
  | a :: b :: _ => .ok (a, b)
  | _ => .error .shortList

def TileResponse.text (r : TileResponse) : Except Fault String := do
  let extent ←
    if r.available then do
      let (rows, columns) ← firstTwo r.shape
      let (least, greatest) ← firstTwo r.range
      pure [s!"Shape: {rows}x{columns}",
        s!"Elevation: {least.fixed 1}m to {greatest.fixed 1}m"]
    else pure []
  return lines ([r.message, s!"Tile: {r.tileName} ({r.source})", s!"State: {r.state}"] ++ extent ++
    [s!"Local: {r.localPath}"] ++ if r.remoteEnabled then [] else ["Remote fetching disabled"])

def PointResponse.text (r : PointResponse) : String :=
  match r.elevation with
  | none => s!"{r.message}\nTile: {r.tileName} ({r.source})"
  | some elevation =>
    s!"({Fault.coordinate r.lon}, {Fault.coordinate r.lat}): " ++
      s!"{elevation.fixed 1}m [{r.interpolation}, {r.tileName}]"

def StatusResponse.text (r : StatusResponse) : String :=
  let states := r.states.mergeSort fun a b => a.1 ≤ b.1
  lines ([
    s!"{r.server} v{r.version}",
    s!"Default source: {r.defaultSource}",
    "Sources: " ++ commas r.sources,
    s!"Cache: {r.cache}",
    s!"Tracked tiles: {r.tracked}"] ++
    (states.map fun (state, count) => s!"  {state}: {count}") ++
    if r.offline.isEmpty then [] else ["Offline: " ++ commas r.offline])

namespace Response

def text : Response → Except Fault String
  | failure error => .ok ("Error: " ++ error)
  | source r => .ok r.text
  | sources r => .ok r.text
  | detail r => .ok r.text
  | tile r => r.text
  | point r => .ok r.text
  | release r => .ok r.message
  | status r => .ok r.text

def format (r : Response) (mode : String) : Except Fault String :=
  if mode = "text" then r.text else .ok r.toJson.text

end Response

end TerrainTiles
