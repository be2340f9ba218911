import TerrainTiles.Manager.Basic

/-!
# Requests

The questions a manager answers: the tile at a point, the elevation at a point,
and the state of a tile without acquiring it. A source that is not given, or
given as empty text, is the default one. A tile that cannot be acquired because
its source is unreachable marks that source as offline before the fault goes on.
-/

namespace TerrainTiles

structure TileReport where
  source : String
  tileName : String
  state : State
  available : Bool
  shape : Nat × Nat
  range : Double × Double
  localPath : String
  archivePath : String
  remoteEnabled : Bool
  message : String

structure PointReport where
  source : String
  tileName : String
  elevation : Double
  available : Bool

namespace Manager

def chooseSource (choice : Option String) : Act Manager String := do
  let m ← Act.own
  return (choice.filter (· ≠ "")).getD m.settings.defaultSource

def isAcquisitionFault : Fault → Bool
  | .acquisition .. => true
  | _ => false

/-- The tile of a descriptor; marks the source as offline if it is unreachable. -/
def acquire (source : String) (id : Nat) : Act Manager (Option Loan) := do
  match ← (onDescriptor id Descriptor.getTile).attempt with
  | .ok loan => return loan
  | .error fault =>
    if isAcquisitionFault fault then markOffline source
    Act.fail fault

def report (source : String) (d : Descriptor) (tile : Option Tile) : Except Fault TileReport := do
  let archive ← d.copy.archive
  return {
    source, tileName := d.tileName, state := d.state
    available := tile.isSome && d.state = .ready
    shape := (tile.map Tile.shape).getD (0, 0)
    range := (tile.map Tile.range).getD (0, 0)
    localPath := d.copy.plain.text, archivePath := archive.text
    remoteEnabled := d.remoteEnabled, message := d.message }

def getTile (lon lat : Double) (source : Option String) : Act Manager TileReport := do
  let source ← chooseSource source
  let id ← descriptorFor source lon lat
  let loan ← acquire source id
  Act.ofExcept (report source (← descriptor id) (loan.map (·.tile)))

/-- The elevation at a point; not-a-number where there is none. -/
def getElevation (lon lat : Double) (source : Option String) (method : String) :
    Act Manager PointReport := do
  if (Interpolation.ofName? method).isNone then Act.fail (.invalidInterpolation method)
  let source ← chooseSource source
  let id ← descriptorFor source lon lat
  let loan ← acquire source id
  let d ← descriptor id
  match loan.bind fun loan => loan.tile.grid.map (·, loan.tile.transform) with
  | none => return { source, tileName := d.tileName, elevation := .nan, available := false }
  | some (grid, transform) =>
    let elevation ← Act.ofExcept (grid.sample transform lon lat method)
    return { source, tileName := d.tileName, elevation, available := !elevation.isNaN }

/-- The state of the tile at a point, without acquiring it. -/
def tileStatus (lon lat : Double) (source : Option String) : Act Manager TileReport := do
  let source ← chooseSource source
  let id ← descriptorFor source lon lat
  let d ← descriptor id
  Act.ofExcept (report source d (d.cached.map (·.tile)))

end Manager

end TerrainTiles
