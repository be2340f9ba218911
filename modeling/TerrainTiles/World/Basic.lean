import TerrainTiles.Ftp.Server
import TerrainTiles.Http.Reply
import TerrainTiles.World.Decoder
import TerrainTiles.World.Event

/-!
# The world

What the library acts on: the files, the replies still to come from HTTP servers
and the FTP servers still to be met, by channel, and the decoder. `events`
records what happened, the latest first.
-/

namespace TerrainTiles

/-- A line of communication; fetchers may share one. -/
abbrev Channel := Nat

structure World where
  files : FileSystem
  decoder : Decoder
  replies : Channel → List Http.Reply := fun _ => []
  servers : Channel → List Ftp.Server := fun _ => []
  /-- How many FTP connections have been made. -/
  connections : Nat := 0
  events : List Event := []

namespace World

def update {α : Type} (table : Channel → α) (at' : Channel) (value : α) : Channel → α :=
  fun channel => if channel = at' then value else table channel

def withFiles (world : World) (files : FileSystem) : World := { world with files }

def record (world : World) (event : Event) : World :=
  { world with events := event :: world.events }

/-- The next reply of a channel; a request without one finds no route. -/
def nextReply (world : World) (channel : Channel) : Http.Reply × World :=
  match world.replies channel with
  | [] => (.failed Http.noRoute, world)
  | reply :: rest => (reply, { world with replies := update world.replies channel rest })

/-- The server that the next connection meets; the last one is met forever. -/
def nextServer (world : World) (channel : Channel) : Ftp.Server × World :=
  match world.servers channel with
  | [] => ({}, world)
  | [server] => (server, world)
  | server :: rest => (server, { world with servers := update world.servers channel rest })

end World

end TerrainTiles
