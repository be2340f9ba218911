import TerrainTiles.Fetcher.Script
import TerrainTiles.Ftp.Fetcher
import TerrainTiles.Http.Fetcher

/-!
# Fetchers

A fetcher gets archives from one remote place, over HTTP, over FTP or by a
script. It can fetch an archive, say where one comes from, and close what it
holds open.
-/

namespace TerrainTiles

inductive Fetcher where
  | http (fetcher : Http.Fetcher)
  | ftp (fetcher : Ftp.Fetcher)
  | scripted (script : Script)

namespace Fetcher

def describe (fetcher : Fetcher) (archiveName : String) : String :=
  match fetcher with
  | http f => f.describe archiveName
  | ftp f => f.describe archiveName
  | scripted _ => Script.describe archiveName

def dispatch {α : Type} (onHttp : Act Http.Fetcher α) (onFtp : Act Ftp.Fetcher α)
    (onScript : Act Script α) : Act Fetcher α
  | (http f, world) => lift http (onHttp (f, world))
  | (ftp f, world) => lift ftp (onFtp (f, world))
  | (scripted f, world) => lift scripted (onScript (f, world))
where
  lift {σ : Type} (wrap : σ → Fetcher) :
      Except Fault α × (σ × World) → Except Fault α × (Fetcher × World)
    | (result, f, world) => (result, wrap f, world)

def fetch (path : Path) : Act Fetcher (Outcome Path) :=
  dispatch (Http.Fetcher.fetch path) (Ftp.Fetcher.fetch path) (Script.fetch path)

def close : Act Fetcher Unit :=
  dispatch Http.Fetcher.close Ftp.Fetcher.close Script.close

/-- A connection or a session of its own is open. -/
def isOpen : Fetcher → Bool
  | http f => f.isOpen
  | ftp f => f.session.isSome
  | scripted _ => false

end Fetcher

end TerrainTiles
