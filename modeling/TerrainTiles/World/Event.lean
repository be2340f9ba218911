import TerrainTiles.Files.Path
import TerrainTiles.Files.Bytes
import TerrainTiles.Binary.Basic

/-!
# Events

What happens outside the library's own state, in order: waits, calls on an HTTP
session and on FTP connections, fetches and decodes. A connection is known by
its number; the end of one is recorded with whether it was regular.
-/

namespace TerrainTiles

/-- A span of time in seconds, as it was given. -/
inductive Seconds where
  | whole (n : Int)
  | real (x : Double)
  | unlimited
  deriving DecidableEq

inductive Event where
  | slept (seconds : Nat)
  | httpOpened
  | httpRequested (url : String) (timeout : Seconds)
  | httpStreamed (chunkSize : Nat)
  | httpClosed
  | ftpCreated (connection : Nat)
  | ftpConnected (connection : Nat) (host : String) (timeout : Seconds)
  | ftpLoggedIn (connection : Nat) (user password : String)
  | ftpMadePassive (connection : Nat)
  | ftpCommanded (connection : Nat) (command : String)
  | ftpListed (connection : Nat) (path : String)
  | ftpNamed (connection : Nat) (path : String)
  | ftpSized (connection : Nat) (path : String)
  | ftpRetrieved (connection : Nat) (path : String) (blockSize : Nat)
  | ftpQuit (connection : Nat) (regular : Bool)
  | ftpClosed (connection : Nat)
  /-- A descriptor asks its fetcher for an archive. -/
  | fetchBegun (archive : Path)
  | scriptFetched (archive : Path)
  | scriptClosed
  | decodedFile (path : Path) (tile : String)
  | decodedBytes (data : Bytes) (tile : String)
  | fetcherMade (source : String)
  deriving DecidableEq

namespace Event

def isFetch : Event → Bool
  | fetchBegun _ => true
  | _ => false

def isDecode : Event → Bool
  | decodedFile .. | decodedBytes .. => true
  | _ => false

end Event

end TerrainTiles
