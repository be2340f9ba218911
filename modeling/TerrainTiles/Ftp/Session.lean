import TerrainTiles.Ftp.Listing
import TerrainTiles.World.Act

/-!
# FTP sessions

A session is one binary-mode connection to a host. Opening it connects, logs in
and sets the modes; if any of that fails the connection is closed again. Closing
quits, and closes the connection where quitting fails as FTP calls may fail; any
other fault of quitting passes through.

A directory is listed with facts where the server can do that, else name by name
with the size of each. A transfer writes a local file as it arrives and ends as
`Status` says; faults that are not part of the protocol pass through.
-/

namespace TerrainTiles.Ftp

structure Connection where
  number : Nat
  server : Server
  /-- How many transfers have been begun on it. -/
  transfers : Nat := 0

structure Session where
  host : String
  channel : Channel
  user : String := "anonymous"
  password : String := ""
  timeout : Seconds := .real 60
  connection : Option Connection := none

inductive Status where
  | ok
  | fileNotFound
  | readError
  deriving DecidableEq, Repr

def Status.text : Status → String
  | ok => "ok"
  | fileNotFound => "file_not_found"
  | readError => "read_error"

def blockSize : Nat := 32768

namespace Session

def isOpen (session : Session) : Bool := session.connection.isSome

/-- Records a call and fails as the server does. -/
def call (event : Event) (failure : Option Fault) : Act Session Unit := do
  Act.emit event
  match failure with
  | some fault => Act.fail fault
  | none => pure ()

def setConnection (connection : Option Connection) : Act Session Unit :=
  Act.modifyOwn fun session => { session with connection }

def newConnection : Act Session Connection := fun (session, world) =>
  let (server, world) := world.nextServer session.channel
  let number := world.connections
  (.ok { number, server }, session,
    { world.record (.ftpCreated number) with connections := number + 1 })

def closeConnection (c : Connection) : Act Session Unit :=
  call (.ftpClosed c.number) c.server.close

/-- Connects, logs in and sets passive and binary mode. -/
def prepare (session : Session) (c : Connection) : Act Session Unit := do
  call (.ftpConnected c.number session.host session.timeout) c.server.connect
  call (.ftpLoggedIn c.number session.user session.password) c.server.login
  call (.ftpMadePassive c.number) c.server.passive
  call (.ftpCommanded c.number "TYPE I") c.server.command

def «open» : Act Session Unit := do
  let session ← Act.own
  match session.connection with
  | some _ => pure ()
  | none =>
    let c ← newConnection
    match ← (prepare session c).attempt with
    | .ok () => setConnection (some c)
    | .error fault =>
      closeConnection c
      Act.fail fault

def quit (c : Connection) : Act Session Unit :=
  call (.ftpQuit c.number c.server.quit.isNone) c.server.quit

def close : Act Session Unit := do
  let session ← Act.own
  match session.connection with
  | none => pure ()
  | some c =>
    setConnection none
    match ← (quit c).attempt with
    | .ok () => pure ()
    | .error fault => if fault.isFtp then closeConnection c else Act.fail fault

def requireOpen : Act Session Connection := do
  let session ← Act.own
  match session.connection with
  | some c => return c
  | none => Act.fail (.sessionClosed session.host)

-- ---------------------------------------------------------------------------
-- Listings
-- ---------------------------------------------------------------------------

/-- Adds each name with its size; what the server refuses a size is no file. -/
def sizesOf (c : Connection) (directory : String) (listing : Listing) :
    List String → Act Session Listing
  | [] => return listing
  | entry :: rest => do
    let name := remoteName entry
    let path := joinRemote directory name
    Act.emit (.ftpSized c.number path)
    match c.server.size path with
    | .ok size => sizesOf c directory (listing.insert name size) rest
    | .error fault =>
      if fault.kind = .ftpPermanent then sizesOf c directory listing rest else Act.fail fault

def listSizes (directory : String) : Act Session Listing := do
  let c ← requireOpen
  Act.emit (.ftpListed c.number directory)
  match c.server.catalogue.listing with
  | .ok listing => return listing
  | .error fault =>
    if fault.kind = .ftpPermanent then
      Act.emit (.ftpNamed c.number directory)
      let names ← Act.ofExcept c.server.names
      sizesOf c directory [] names
    else Act.fail fault

-- ---------------------------------------------------------------------------
-- Transfers
-- ---------------------------------------------------------------------------

/-- How a transfer ends that breaks off; `none` if its fault passes through. -/
def statusOf? (fault : Fault) : Option Status :=
  if fault.kind = .ftpPermanent then
    some (if fault.message.startsWith "550" then .fileNotFound else .readError)
  else if fault.kind.isFtpProtocol then some .readError
  else none

def checkSize (path : Path) (expected : Option Int) : Act Session Status := do
  match expected with
  | none => return .ok
  | some size =>
    let files ← Act.files
    let content ← Act.ofExcept ((files.read path).mapError .file)
    return if (content.length : Int) = size then .ok else .readError

def beginTransfer (c : Connection) (remote : String) : Act Session Transfer := do
  Act.emit (.ftpRetrieved c.number remote blockSize)
  setConnection (some { c with transfers := c.transfers + 1 })
  return c.server.transfer c.transfers remote

def retrieve (remote : String) (path : Path) (expected : Option Int := none) :
    Act Session Status := do
  let c ← requireOpen
  Act.makeDirectories path.parent
  let file ← Act.createFile path
  let transfer ← beginTransfer c remote
  Act.writeChunks file transfer.chunks
  match transfer.failure with
  | none => checkSize path expected
  | some fault =>
    match statusOf? fault with
    | some status => return status
    | none => Act.fail fault

end Session

end TerrainTiles.Ftp
