import TerrainTiles.Archive.Entry
import TerrainTiles.Descriptor.Basic

/-!
# Acquiring a tile

The states and what leads from one to the next:

* unknown: looking for a local copy leads to local or remote;
* remote and local error: a fetch leads to local, absent or fatal, or changes
  nothing if it may succeed later;
* local: decoding leads to ready, absent or local error.

`getTile` first looks, without the lock, whether an answer is settled. If it is
not, `acquireOnce` looks again and then acquires, as one step under the lock.
-/

namespace TerrainTiles.Descriptor

def setState (state : State) : Act Descriptor Unit := Act.modifyOwn fun d => { d with state }

def giveUp (state : State) (message : String) : Act Descriptor (Option Loan) := do
  Act.modifyOwn fun d => { d with state, message }
  return none

-- ---------------------------------------------------------------------------
-- Fetching
-- ---------------------------------------------------------------------------

def onFetcher {α : Type} (fetcher : Fetcher) (act : Act Fetcher α) : Act Descriptor α :=
  Act.focus (fun d => d.fetcher.getD fetcher) (fun f d => { d with fetcher := some f }) act

def removeArchive : Act Descriptor Unit := do
  let d ← Act.own
  Act.setFiles (← Act.ofExcept (d.copy.removeArchive (← Act.files)))

def requestArchive (fetcher : Fetcher) : Act Descriptor (Outcome Path) := do
  let d ← Act.own
  let path ← Act.ofExcept d.copy.archive
  Act.emit (.fetchBegun path)
  onFetcher fetcher (Fetcher.fetch path)

/-- Fetches the archive. Fetchers report failures as outcomes; a fault that
comes through all the same may pass, and what is left of the archive goes. -/
def fetchRemote : Act Descriptor (Outcome Path) := do
  let d ← Act.own
  match d.fetcher with
  | none => return .recoverable s!"No remote configured for {d.tileName}"
  | some fetcher =>
    match ← (requestArchive fetcher).attempt with
    | .ok outcome => return outcome
    | .error fault =>
      removeArchive
      return .recoverable fault.message (some fault)

-- ---------------------------------------------------------------------------
-- Decoding
-- ---------------------------------------------------------------------------

def decodeFile (path : Path) : Act Descriptor (Option Tile) := do
  let d ← Act.own
  let files ← Act.files
  let unpacker ← Act.unpacker
  if Archive.hasArchiveSuffix path then
    let data ← Act.ofExcept (Archive.readTile files path d.tileName unpacker)
    Act.emit (.decodedBytes data d.tileName)
    Act.decode (some data) d.tileName
  else
    Act.emit (.decodedFile path d.tileName)
    Act.decode (files.read path).toOption d.tileName

/-- The file to decode: the preferred one if it is there, else the local copy. -/
def chooseFile (preferred : Option Path) : Act Descriptor (Option Path) := do
  let d ← Act.own
  let files ← Act.files
  match preferred.filter files.isFile with
  | some path => return some path
  | none => Act.ofExcept (d.copy.locate files)

def decodeLocal (preferred : Option Path) : Act Descriptor (Outcome Tile) := do
  let d ← Act.own
  match ← chooseFile preferred with
  | none => return .recoverable s!"Local copy of {d.tileName} disappeared before decoding"
  | some path =>
    match ← (decodeFile path).attempt with
    | .error fault =>
      return .recoverable s!"Unable to read tile {path.text}: {fault.message}" (some fault)
    | .ok none => return .absent s!"{d.tileName} holds no elevation product"
    | .ok (some tile) => return .success tile

def lend (tile : Tile) : Act Descriptor (Option Loan) := do
  let d ← Act.own
  let loan : Loan := { tile, serial := d.decoded }
  Act.setOwn { d with
    cached := some loan, decoded := d.decoded + 1, state := .ready, message := "" }
  return some loan

def dropTile : Act Descriptor Unit := Act.modifyOwn fun d => { d with cached := none }

def finish (preferred : Option Path) : Act Descriptor (Option Loan) := do
  match ← decodeLocal preferred with
  | .success tile => lend tile
  | .absent message _ =>
    dropTile
    giveUp .absent message
  | .recoverable message _ | .fatal message _ =>
    dropTile
    giveUp .localError message

-- ---------------------------------------------------------------------------
-- The whole acquisition
-- ---------------------------------------------------------------------------

/-- Looks for a local copy, once. -/
def probe : Act Descriptor Unit := do
  let d ← Act.own
  if d.state = .unknown then
    let present ← Act.ofExcept (d.copy.isPresent (← Act.files))
    setState (if present then .onDisk else .remote)

/-- Fetches the archive and decodes what was fetched, not an older plain file. -/
def acquireRemote : Act Descriptor (Option Loan) := do
  let d ← Act.own
  match ← fetchRemote with
  | .success path =>
    setState .onDisk
    finish (some path)
  | .absent message _ => giveUp .absent message
  | .recoverable message _ => giveUp d.state message
  | .fatal message cause =>
    let _ ← giveUp .fatal message
    Act.fail (d.unreachable cause)

def acquire : Act Descriptor (Option Loan) := do
  probe
  let d ← Act.own
  if d.state = .remote ∨ d.state = .localError then
    if d.remoteEnabled then acquireRemote else return none
  else finish none

/-- What happens under the lock, as one step. -/
def acquireOnce : Act Descriptor (Option Loan) := do
  match (← Act.own).settled? with
  | some answer => Act.ofExcept answer
  | none => acquire

/-- The tile, acquired first if need be; none if there is none now. -/
def getTile : Act Descriptor (Option Loan) := do
  match (← Act.own).settled? with
  | some answer => Act.ofExcept answer
  | none => acquireOnce

/-- Closes the fetcher, whatever comes of it, and lets go of the tile. -/
def dispose : Act Descriptor Unit := do
  let d ← Act.own
  match d.fetcher with
  | some fetcher =>
    let _ ← (onFetcher fetcher Fetcher.close).attempt
  | none => pure ()
  dropTile
  if d.state = .ready then setState .unknown

end TerrainTiles.Descriptor
