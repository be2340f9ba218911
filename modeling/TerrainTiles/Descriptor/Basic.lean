import TerrainTiles.Fetcher.Basic
import TerrainTiles.LocalCopy

/-!
# Tile descriptors

A descriptor knows where one tile is kept and which fetcher can supply it, how
far its acquisition has come, and the tile once it is decoded.

A tile is handed out as a `Loan` with the serial number of its decode. The
descriptor disposes of what it has lent when it lets go of it, so a loan is
valid as long as its number is that of the cached one.
-/

namespace TerrainTiles

inductive State where
  | unknown
  | onDisk
  | remote
  | localError
  | ready
  | absent
  | fatal
  deriving DecidableEq, Repr

def State.text : State → String
  | unknown => "unknown"
  | onDisk => "local"
  | remote => "remote"
  | localError => "local_error"
  | ready => "ready"
  | absent => "absent"
  | fatal => "fatal"

structure Loan where
  tile : Tile
  serial : Nat

structure Descriptor where
  copy : LocalCopy
  fetcher : Option Fetcher
  state : State := .unknown
  cached : Option Loan := none
  /-- How many tiles have been decoded. -/
  decoded : Nat := 0
  /-- Why the latest acquisition gave no tile. -/
  message : String := ""
  /-- Cleared when remote fetches are disabled. -/
  remoteAllowed : Bool := true

namespace Descriptor

def tileName (d : Descriptor) : String := d.copy.plain.name

def remoteEnabled (d : Descriptor) : Bool := d.remoteAllowed && d.fetcher.isSome

def disableRemote (d : Descriptor) : Descriptor := { d with remoteAllowed := false }

def localFileExists (d : Descriptor) : Bool := d.state = .onDisk || d.state = .ready

def remoteFileExists (d : Descriptor) : Bool := d.state ≠ .absent

def text (d : Descriptor) : String :=
  s!"TileDescriptor({Text.quoted d.tileName}, state={d.state.text})"

def current (d : Descriptor) (loan : Loan) : Tile :=
  if d.cached.any (·.serial = loan.serial) then loan.tile else loan.tile.dispose

def unreachable (d : Descriptor) (cause : Option Fault) : Fault := .acquisition d.tileName cause

/-- The answer that needs no acquisition: the cached tile, or the news that
there will be none. -/
def settled? (d : Descriptor) : Option (Except Fault (Option Loan)) :=
  match d.cached with
  | some loan => some (.ok (some loan))
  | none =>
    if d.state = .absent then some (.ok none)
    else if d.state = .fatal then some (.error (d.unreachable none))
    else none

end Descriptor

end TerrainTiles
