import TerrainTiles.Ftp.Session
import TerrainTiles.Outcome

/-!
# Fetching over FTP

A fetcher keeps one session and the listing of its remote directory, and uses
both for every fetch until it is closed. A connection problem closes it, so that
the next fetch connects anew. A fault that means the host cannot be reached is
fatal; other failures may pass.
-/

namespace TerrainTiles.Ftp

structure Fetcher where
  host : String
  directory : String
  channel : Channel
  session : Option Session := none
  listing : Option Listing := none

namespace Fetcher

def remoteFile (fetcher : Fetcher) (archiveName : String) : String :=
  joinRemote fetcher.directory archiveName

def describe (fetcher : Fetcher) (archiveName : String) : String :=
  s!"ftp://{fetcher.host}{fetcher.remoteFile archiveName}"

/-- The listing that a fetch goes by. -/
def sizes (fetcher : Fetcher) : Listing := fetcher.listing.getD []

/-- Runs an action on a session and returns the session it leaves. -/
def within {α : Type} (session : Session) (act : Act Session α) :
    Act Fetcher (Except Fault α × Session) := fun (fetcher, world) =>
  let (result, session, world) := act (session, world)
  (.ok (result, session), fetcher, world)

def close : Act Fetcher Unit := do
  let fetcher ← Act.own
  Act.modifyOwn fun fetcher => { fetcher with session := none, listing := none }
  match fetcher.session with
  | none => pure ()
  | some session =>
    let (result, _) ← within session Session.close
    Act.ofExcept result

def connect (directory : String) : Act Session Listing := do
  Session.open
  Session.listSizes directory

/-- The open session; connects and lists the directory unless there is one. -/
def «open» : Act Fetcher Session := do
  let fetcher ← Act.own
  match fetcher.session with
  | some session => return session
  | none =>
    let new : Session := { host := fetcher.host, channel := fetcher.channel }
    match ← within new (connect fetcher.directory) with
    | (.ok listing, session) =>
      Act.modifyOwn fun fetcher => { fetcher with session := some session, listing := some listing }
      return session
    | (.error fault, session) =>
      let (closed, _) ← within session Session.close
      Act.ofExcept closed
      Act.fail fault

/-- Fatal if the fault means that the host cannot be reached. -/
def failure (fault : Fault) (fatal recoverable : String) : Outcome Path :=
  if fault.isSocket then .fatal fatal (some fault) else .recoverable recoverable (some fault)

def notFound (fetcher : Fetcher) (archiveName : String) : Outcome Path :=
  .absent s!"{archiveName} not found on {fetcher.host}"

def fetch (path : Path) : Act Fetcher (Outcome Path) := do
  let fetcher ← Act.own
  let name := path.name
  match ← Fetcher.open.attempt with
  | .error fault =>
    let message := s!"Failed to connect to FTP {fetcher.host}: {fault.message}"
    return failure fault message message
  | .ok session =>
    let sizes := (← Act.own).sizes
    if !sizes.contains name then return fetcher.notFound name
    let remote := fetcher.remoteFile name
    let (result, session) ← within session (Session.retrieve remote path (sizes.size? name))
    Act.modifyOwn fun fetcher => { fetcher with session := some session }
    match result with
    | .error fault =>
      close
      Act.unlink path
      return failure fault
        s!"Connection to FTP {fetcher.host} lost: {fault.message}"
        s!"FTP retrieval of {remote} failed ({fault.message})"
    | .ok .ok => return .success path
    | .ok .fileNotFound =>
      Act.unlink path
      return fetcher.notFound name
    | .ok .readError =>
      Act.unlink path
      close
      return .recoverable s!"FTP retrieval of {remote} failed ({Status.readError.text})"

end Fetcher

end TerrainTiles.Ftp
