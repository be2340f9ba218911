import TerrainTiles.Outcome
import TerrainTiles.World.Act

/-!
# Fetching over HTTP

An archive is requested from below a base address and written to its path as the
body arrives. `download` is a single attempt; `withRetries` repeats an attempt
that failed with a lost connection or a time-out, after each of a list of waits.

An attempt that fails while the body arrives leaves no file. `fetch` turns the
faults of files and transfers into an absent archive and removes the file once
more; the tile may be missing because it lies in the sea.
-/

namespace TerrainTiles.Http

structure Fetcher where
  base : String
  channel : Channel
  /-- The session was handed in and is not this fetcher's to open or close. -/
  injected : Bool := false
  /-- A session of its own is open. -/
  isOpen : Bool := false
  /-- How closing its sessions ends, in order; after the last one it ends well. -/
  closings : List (Option Fault) := []

def sixtySeconds : Seconds := .real 60
def chunkSize : Nat := 32768

/-- Seconds to wait before the second and the third attempt. -/
def waits : List Nat := [1, 2]

namespace Fetcher

/-- Where an archive is requested from: one slash after the base. -/
def describe (fetcher : Fetcher) (archiveName : String) : String :=
  String.ofList (Text.dropTrailing (· = '/') fetcher.base.toList) ++ "/" ++ archiveName

def ensureSession : Act Fetcher Unit := do
  let fetcher ← Act.own
  if !fetcher.injected && !fetcher.isOpen then
    Act.emit .httpOpened
    Act.modifyOwn fun fetcher => { fetcher with isOpen := true }

/-- Closes the session it opened; one that cannot be closed is kept. -/
def close : Act Fetcher Unit := do
  let fetcher ← Act.own
  if fetcher.isOpen then
    Act.emit .httpClosed
    Act.modifyOwn fun fetcher => { fetcher with closings := fetcher.closings.tail }
    match fetcher.closings.head?.join with
    | some fault => Act.fail fault
    | none => Act.modifyOwn fun fetcher => { fetcher with isOpen := false }

def takeReply (channel : Channel) : Act Fetcher Reply := fun (fetcher, world) =>
  let (reply, world) := world.nextReply channel
  (.ok reply, fetcher, world)

def request (url : String) : Act Fetcher Response := do
  let fetcher ← Act.own
  Act.emit (.httpRequested url sixtySeconds)
  match ← takeReply fetcher.channel with
  | .failed fault => Act.fail fault
  | .answered response =>
    match response.statusFault? url with
    | some fault => Act.fail fault
    | none => return response

def receive (response : Response) (path : Path) : Act Fetcher Unit := do
  let file ← Act.createFile path
  Act.emit (.httpStreamed chunkSize)
  Act.writeChunks file response.chunks
  match response.failure with
  | some fault => Act.fail fault
  | none => pure ()

def checkLength (response : Response) (url : String) (path : Path) : Act Fetcher Nat := do
  let received := response.chunks.flatten.length
  match response.declaredLength? with
  | none => return received
  | some declared =>
    let expected ← Act.ofExcept ((Text.readInteger declared).mapError .integer)
    if expected = received then return received
    else
      Act.unlink path
      Act.fail (.sizeMismatch url declared received)

/-- One attempt to download an archive; the number of bytes it has. -/
def download (url : String) (path : Path) : Act Fetcher Nat := do
  ensureSession
  Act.makeDirectories path.parent
  let response ← request url
  match ← (receive response path).attempt with
  | .ok () => checkLength response url path
  | .error fault =>
    Act.unlink path
    Act.fail fault

def withRetries {α : Type} (act : Act Fetcher α) : List Nat → Act Fetcher α
  | [] => act
  | wait :: rest => do
    match ← act.attempt with
    | .ok a => return a
    | .error fault =>
      if fault.isTransient then
        Act.emit (.slept wait)
        withRetries act rest
      else Act.fail fault

def fetch (path : Path) : Act Fetcher (Outcome Path) := do
  let fetcher ← Act.own
  let url := fetcher.describe path.name
  match ← (withRetries (download url path) waits).attempt with
  | .ok _ => return .success path
  | .error fault =>
    if fault.isOS then
      Act.unlink path
      return .absent s!"http error: {fault.message} on {url}" (some fault)
    else Act.fail fault

end Fetcher

end TerrainTiles.Http
