import TerrainTiles.Descriptor.Acquire
import TerrainTiles.Source.Grid

/-!
# The tile manager

The manager keeps one descriptor for each tile that was asked for since it was
last released, under the tile's source and name, and knows which sources turned
out to be unreachable. Descriptors are never forgotten: `pool` holds every one
that was made, and `tracked` says, oldest first, under which key which of them
is found. So a call that is under way keeps its descriptor when a release takes
the key away.

What a request does to the manager are four steps, each atomic: finding the
descriptor (`descriptorFor`), acquiring its tile (`onDescriptor`), marking a
source as offline (`markOffline`) and releasing (`untrack`, then disposing).
-/

namespace TerrainTiles

/-- A source and the name of a tile. -/
abbrev Key := String × String

structure Settings where
  cache : Path
  defaultSource : String
  environment : Environment
  /-- The fetcher for a new descriptor of a source, by how many it has had before. -/
  makeFetcher : Source → Nat → Option Fetcher

structure Manager where
  settings : Settings
  pool : List Descriptor := []
  tracked : List (Key × Nat) := []
  offline : List String := []
  /-- The sources of the fetchers made so far. -/
  made : List String := []

def defaultCacheDirectory : String := "~/.cache/chuk-mcp-dem-tiles"

namespace Settings

/-- A directory or a source that is not given, or given as empty text, is taken
from the environment. -/
def ofChoices (environment : Environment) (cache source : Option String)
    (makeFetcher : Source → Nat → Option Fetcher) : Settings :=
  let given (choice : Option String) (name standard : String) : String :=
    (choice.filter (· ≠ "")).getD ((environment.get? name).getD standard)
  { cache := Path.parse (environment.expandHome
      (given cache "DEM_TILE_CACHE_DIR" defaultCacheDirectory))
    defaultSource := given source "DEM_DEFAULT_SOURCE" "srtm3"
    environment, makeFetcher }

/-- The fetchers that the sources call for, all on one channel. -/
def sourceFetcher (environment : Environment) (source : Source) (_ : Nat) : Option Fetcher :=
  match source.remoteIn environment with
  | .http url _ => some (.http { base := url, channel := 0 })
  | .ftp host _ directory _ => some (.ftp { host, directory, channel := 0 })

end Settings

namespace Manager

def ofSettings (settings : Settings) : Manager := { settings }

-- ---------------------------------------------------------------------------
-- Views
-- ---------------------------------------------------------------------------

def find? (m : Manager) (key : Key) : Option Nat := m.tracked.lookup key

def descriptors (m : Manager) : List Descriptor := m.tracked.filterMap (m.pool[·.2]?)

def trackedCount (m : Manager) : Nat := m.tracked.length

def isOffline (m : Manager) (source : String) : Bool := m.offline.contains source

def offlineSources (m : Manager) : List String := m.offline.mergeSort fun a b => a ≤ b

def countState (counts : List (State × Nat)) (state : State) : List (State × Nat) :=
  match counts with
  | [] => [(state, 1)]
  | (s, n) :: rest => if s = state then (s, n + 1) :: rest else (s, n) :: countState rest state

/-- How many tracked descriptors are in each state, in the order the states are met. -/
def stateCounts (m : Manager) : List (State × Nat) :=
  m.descriptors.foldl (fun counts d => countState counts d.state) []

-- ---------------------------------------------------------------------------
-- Steps
-- ---------------------------------------------------------------------------

def missingDescriptor : Fault :=
  .reported { kind := .runtime, details := [.text "no such descriptor"] }

def onDescriptor {α : Type} (id : Nat) (act : Act Descriptor α) : Act Manager α :=
  fun (m, world) =>
    match m.pool[id]? with
    | some d =>
      let (result, d, world) := act (d, world)
      (result, { m with pool := m.pool.set id d }, world)
    | none => (.error missingDescriptor, m, world)

def descriptor (id : Nat) : Act Manager Descriptor := onDescriptor id Act.own

def track (source : Source) (tile : String) : Act Manager Nat := do
  let m ← Act.own
  Act.emit (.fetcherMade source.id)
  let d : Descriptor := {
    copy := source.localCopy m.settings.cache tile
    fetcher := m.settings.makeFetcher source (m.made.count source.id) }
  let d := if m.isOffline source.id then d.disableRemote else d
  let id := m.pool.length
  Act.setOwn { m with
    pool := m.pool ++ [d], tracked := m.tracked ++ [((source.id, tile), id)]
    made := m.made ++ [source.id] }
  return id

/-- The descriptor of the tile at a point, made unless it is tracked. -/
def descriptorFor (source : String) (lon lat : Double) : Act Manager Nat := do
  let found ← Act.ofExcept (Source.find source)
  let tile ← Act.ofExcept (found.tileName lon lat)
  match (← Act.own).find? (source, tile) with
  | some id => return id
  | none => track found tile

/-- The pool with the remote disabled for the descriptors of some places. -/
def disableAt (pool : List Descriptor) (ids : List Nat) : List Descriptor :=
  pool.mapIdx fun id d => if id ∈ ids then d.disableRemote else d

/-- Records that a source is unreachable and disables the remote of its tracked
descriptors. -/
def markOffline (source : String) : Act Manager Unit :=
  Act.modifyOwn fun m =>
    if m.isOffline source then m
    else
      let ids := (m.tracked.filter (·.1.1 = source)).map (·.2)
      { m with offline := m.offline ++ [source], pool := disableAt m.pool ids }

/-- Takes away the keys of a source, or all, and says which descriptors they led to. -/
def untrack (source : Option String) : Act Manager (List Nat) := do
  let m ← Act.own
  let (gone, kept) := m.tracked.partition fun (key, _) => source.all (· = key.1)
  Act.setOwn { m with tracked := kept }
  return gone.map (·.2)

def disposeAll : List Nat → Act Manager Unit
  | [] => pure ()
  | id :: rest => do
    onDescriptor id Descriptor.dispose
    disposeAll rest

/-- Disposes of the tracked descriptors of a source, or of all; how many they were. -/
def release (source : Option String) : Act Manager Nat := do
  let ids ← untrack source
  disposeAll ids
  return ids.length

end Manager

end TerrainTiles
