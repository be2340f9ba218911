import TerrainTiles.Proofs.Files.Creation
import TerrainTiles.Proofs.Ftp.Transfer

/-!
# The course of FTP sessions

What each step of a session and of a fetcher comes to, whatever the server
answers. Opening either attaches a connection or closes the one it made
(`Session.run_open_refused`, `Session.run_open_admitted`); closing always lets go of
it (`Session.run_close`), and a listing is either answered or not
(`Fetcher.run_open_anew`). Where there is room for the file, a transfer writes what
it brings (`Session.run_retrieve`). A fetch keeps the session and sees to the result
(`Fetcher.run_fetch_transferred`), and `Fetcher.run_fetch_listed` says how it ends then.

A server stands in the way of a session with its `refusal`, and of the end of one
with its `parting`: closing deals with the faults of quitting that FTP calls may
have, and only then can closing the connection fail.
-/

namespace TerrainTiles

open Act

-- ---------------------------------------------------------------------------
-- What is asked of a server
-- ---------------------------------------------------------------------------

def Event.isInquiry : Event → Bool
  | ftpConnected .. | ftpLoggedIn .. | ftpMadePassive _ | ftpCommanded .. | ftpListed ..
  | ftpNamed .. | ftpSized .. => true
  | _ => false

namespace World

structure Inquired (before after : World) : Prop where
  rest : after = { before with events := after.events }
  events : Records (fun event => event.isInquiry) before after

instance : IsPreorder World Inquired where
  refl _ := ⟨rfl, records_of_eq rfl⟩
  trans before middle after h h' := by
    refine ⟨?_, h.events.trans h'.events⟩
    rw [h'.rest, h.rest]

theorem inquired_record (world : World) {event : Event} (h : event.isInquiry) :
    Inquired world (world.record event) := ⟨rfl, [event], rfl, by simpa using h⟩

def meeting (world : World) (channel : Channel) : World :=
  let (_, world) := world.nextServer channel
  { world.record (.ftpCreated world.connections) with connections := world.connections + 1 }

theorem meeting_eq (world : World) (channel : Channel) :
    world.meeting channel = { world with
      servers := (world.nextServer channel).2.servers, connections := world.connections + 1
      events := .ftpCreated world.connections :: world.events } := by
  have hnext : world.meeting channel = { (world.nextServer channel).2 with
      connections := (world.nextServer channel).2.connections + 1
      events := .ftpCreated (world.nextServer channel).2.connections ::
        (world.nextServer channel).2.events } := rfl
  rw [hnext]
  unfold nextServer
  split <;> rfl

end World

namespace Ftp

def raising : Option Fault → Except Fault Unit
  | some fault => .error fault
  | none => .ok ()

namespace Server

def refusal (server : Server) : Option Fault :=
  server.connect.or (server.login.or (server.passive.or server.command))

def sized (server : Server) (directory : String) (listing : Listing) :
    List String → Except Fault Listing
  | [] => .ok listing
  | entry :: rest =>
    match server.size (joinRemote directory (remoteName entry)) with
    | .ok size => server.sized directory (listing.insert (remoteName entry) size) rest
    | .error fault =>
      if fault.kind = .ftpPermanent then server.sized directory listing rest else .error fault

def listed (server : Server) (directory : String) : Except Fault Listing :=
  match server.catalogue.listing with
  | .ok listing => .ok listing
  | .error fault =>
    if fault.kind = .ftpPermanent then server.names >>= server.sized directory []
    else .error fault

def parting (server : Server) : Option Fault :=
  match server.quit with
  | none => none
  | some fault => if fault.isFtp then server.close else some fault

end Server

end Ftp

def World.parted (world : World) (c : Ftp.Connection) : World :=
  let quitted := world.record (.ftpQuit c.number c.server.quit.isNone)
  if c.server.quit.any Fault.isFtp then quitted.record (.ftpClosed c.number) else quitted

@[simp] theorem World.files_parted (world : World) (c : Ftp.Connection) :
    (world.parted c).files = world.files := by
  unfold parted
  dsimp only
  split <;> rfl

namespace Ftp

-- ---------------------------------------------------------------------------
-- Sessions
-- ---------------------------------------------------------------------------

namespace Session

variable {s : Session × World} {c : Connection} {path : Path} {remote directory : String}

theorem run_call (event : Event) (failure : Option Fault) (s : Session × World) :
    (call event failure).run s = (raising failure, s.1, s.2.record event) := by
  cases failure <;> rfl

theorem inquires_call {event : Event} (h : event.isInquiry) (failure : Option Fault) :
    (call event failure).Keeps Eq World.Inquired := by
  intro s
  rw [run_call]
  exact ⟨rfl, s.2.inquired_record h⟩

theorem inquires_prepare (session : Session) (c : Connection) :
    (prepare session c).Keeps Eq World.Inquired :=
  .bind (inquires_call rfl _) fun _ => .bind (inquires_call rfl _) fun _ =>
    .bind (inquires_call rfl _) fun _ => inquires_call rfl _

theorem run_prepare (session : Session) (c : Connection) (s : Session × World) :
    ∃ asked, (prepare session c).run s = (raising c.server.refusal, s.1, asked) ∧
      World.Inquired s.2 asked := by
  obtain ⟨hown, hasked⟩ := inquires_prepare session c s
  refine ⟨_, ?_, hasked⟩
  have hresult : ((prepare session c).run s).1 = raising c.server.refusal := by
    unfold prepare Server.refusal
    -- The first call that fails is the last one made.
    rw [run_bind, run_call]
    cases c.server.connect with
    | some fault => rfl
    | none =>
      dsimp only [raising]
      rw [run_bind, run_call]
      cases c.server.login with
      | some fault => rfl
      | none =>
        dsimp only [raising]
        rw [run_bind, run_call]
        cases c.server.passive with
        | some fault => rfl
        | none =>
          dsimp only [raising]
          rw [run_call]
          rfl
  exact Prod.ext hresult (Prod.ext hown.symm rfl)

theorem run_requireOpen (hc : s.1.connection = some c) : requireOpen.run s = (.ok c, s) := by
  unfold requireOpen
  rw [run_bind, run_own]
  simp only [hc]
  rfl

theorem run_sizesOf (c : Connection) (directory : String) (listing : Listing)
    (names : List String) (s : Session × World) :
    ∃ asked, (sizesOf c directory listing names).run s =
      (c.server.sized directory listing names, s.1, asked) ∧ World.Inquired s.2 asked := by
  induction names generalizing listing s with
  | nil => exact ⟨s.2, rfl, Std.Refl.refl s.2⟩
  | cons entry rest ih =>
    let path := joinRemote directory (remoteName entry)
    have hsized : World.Inquired s.2 (s.2.record (.ftpSized c.number path)) :=
      s.2.inquired_record rfl
    unfold sizesOf Server.sized
    dsimp only
    rw [run_bind, run_emit]
    dsimp only
    cases c.server.size path with
    | ok size =>
      obtain ⟨asked, hrun, hasked⟩ := ih (listing.insert (remoteName entry) size)
        (s.1, s.2.record (.ftpSized c.number path))
      exact ⟨asked, hrun, IsTrans.trans _ _ _ hsized hasked⟩
    | error fault =>
      dsimp only
      split
      · obtain ⟨asked, hrun, hasked⟩ := ih listing (s.1, s.2.record (.ftpSized c.number path))
        exact ⟨asked, hrun, IsTrans.trans _ _ _ hsized hasked⟩
      · exact ⟨_, rfl, hsized⟩

theorem run_listSizes (hc : s.1.connection = some c) (directory : String) :
    ∃ asked, (listSizes directory).run s = (c.server.listed directory, s.1, asked) ∧
      World.Inquired s.2 asked := by
  have hlisted : World.Inquired s.2 (s.2.record (.ftpListed c.number directory)) :=
    s.2.inquired_record rfl
  unfold listSizes Server.listed
  rw [run_bind_of_ok (run_requireOpen hc), run_bind, run_emit]
  dsimp only
  cases c.server.catalogue.listing with
  | ok listing => exact ⟨_, rfl, hlisted⟩
  | error fault =>
    dsimp only
    split
    · have hnamed : World.Inquired s.2 ((s.2.record (.ftpListed c.number directory)).record
          (.ftpNamed c.number directory)) :=
        IsTrans.trans _ _ _ hlisted (World.inquired_record _ rfl)
      rw [run_bind, run_emit]
      dsimp only
      rw [run_bind, run_ofExcept]
      cases c.server.names with
      | error fault => exact ⟨_, rfl, hnamed⟩
      | ok names =>
        obtain ⟨asked, hrun, hasked⟩ := run_sizesOf c directory [] names _
        exact ⟨asked, hrun, IsTrans.trans _ _ _ hnamed hasked⟩
    · exact ⟨_, rfl, hlisted⟩

def connecting (session : Session) (world : World) : Connection :=
  let (server, world) := world.nextServer session.channel
  { number := world.connections, server }

theorem number_connecting (session : Session) (world : World) :
    (session.connecting world).number = world.connections := by
  change (world.nextServer session.channel).2.connections = world.connections
  unfold World.nextServer
  split <;> rfl

theorem run_newConnection (s : Session × World) :
    newConnection.run s = (.ok (s.1.connecting s.2), s.1, s.2.meeting s.1.channel) := rfl

/-- What stands in the way of the session is reported after the connection was
closed; closing it can fail instead. -/
theorem run_open_refused {fault : Fault} (hs : s.1.connection = none)
    (hr : (s.1.connecting s.2).server.refusal = some fault) :
    ∃ asked, World.Inquired (s.2.meeting s.1.channel) asked ∧
      Session.open.run s = (.error ((s.1.connecting s.2).server.close.getD fault), s.1,
        asked.record (.ftpClosed (s.1.connecting s.2).number)) := by
  obtain ⟨asked, hprepare, hasked⟩ :=
    run_prepare s.1 (s.1.connecting s.2) (s.1, s.2.meeting s.1.channel)
  refine ⟨asked, hasked, ?_⟩
  unfold Session.open
  rw [run_bind, run_own]
  simp only [hs]
  rw [run_bind_of_ok (run_newConnection s), run_bind, run_attempt, hprepare, hr]
  dsimp only [raising]
  rw [run_bind, closeConnection, run_call]
  cases (s.1.connecting s.2).server.close <;> rfl

theorem run_open_admitted (hs : s.1.connection = none)
    (hr : (s.1.connecting s.2).server.refusal = none) :
    ∃ asked, World.Inquired (s.2.meeting s.1.channel) asked ∧ Session.open.run s =
      (.ok (), { s.1 with connection := some (s.1.connecting s.2) }, asked) := by
  obtain ⟨asked, hprepare, hasked⟩ :=
    run_prepare s.1 (s.1.connecting s.2) (s.1, s.2.meeting s.1.channel)
  refine ⟨asked, hasked, ?_⟩
  unfold Session.open
  rw [run_bind, run_own]
  simp only [hs]
  rw [run_bind_of_ok (run_newConnection s), run_bind, run_attempt, hprepare, hr]
  rfl

theorem run_close (hc : s.1.connection = some c) :
    close.run s = (raising c.server.parting, { s.1 with connection := none }, s.2.parted c) := by
  unfold close Server.parting World.parted
  rw [run_bind, run_own]
  simp only [hc]
  rw [run_bind, setConnection, run_modifyOwn]
  dsimp only
  rw [run_bind, run_attempt, quit, run_call]
  cases c.server.quit with
  | none => rfl
  | some fault =>
    cases hf : fault.isFtp with
    | true =>
      simp only [raising, hf, if_true, Option.any_some]
      rw [closeConnection, run_call]
      rfl
    | false =>
      simp only [raising, hf, Bool.false_eq_true, if_false, Option.any_some]
      rfl

end Session

-- ---------------------------------------------------------------------------
-- Transfers
-- ---------------------------------------------------------------------------

/-- How a transfer ends, given the size that is expected of it. -/
def Transfer.ending (transfer : Transfer) (expected : Option Int) : Except Fault Status :=
  match transfer.failure with
  | none => .ok (if ∀ size ∈ expected, (transfer.chunks.flatten.length : Int) = size then .ok
      else .readError)
  | some fault => match Session.statusOf? fault with
    | some status => .ok status
    | none => .error fault

namespace Session

variable {s : Session × World} {c : Connection} {path : Path}

theorem run_checkSize {expected : Option Int} {content : Bytes}
    (hcontent : s.2.files.content? path = some content) :
    (checkSize path expected).run s =
      (.ok (if ∀ size ∈ expected, (content.length : Int) = size then .ok else .readError), s) := by
  cases expected with
  | none => simp [checkSize]
  | some size =>
    unfold checkSize
    dsimp only
    rw [run_bind, run_files]
    dsimp only
    rw [run_bind, run_ofExcept, FileSystem.read_of_content? hcontent]
    simp [mapError_ok]

/-- Where there is room for it, what a transfer brings is at the path, however it ends. -/
theorem run_retrieve (hc : s.1.connection = some c) (hroom : s.2.files.Receptive path)
    (remote : String) (expected : Option Int) :
    ∃ loc files, files.Holds path loc (c.server.transfer c.transfers remote).chunks.flatten ∧
      (retrieve remote path expected).run s =
        ((c.server.transfer c.transfers remote).ending expected,
          { s.1 with connection := some c.begun },
          (s.2.record (.ftpRetrieved c.number remote blockSize)).withFiles files) := by
  obtain ⟨⟨loc, files⟩, hcreate⟩ := hroom.creates
  have hmake : (makeDirectories path.parent).run s =
      (.ok (), s.1, s.2.withFiles (s.2.files.makeDirectories path.parent).2) := by
    rw [run_makeDirectories, hroom.directories]
    rfl
  have hfile : (createFile path).run
      (s.1, s.2.withFiles (s.2.files.makeDirectories path.parent).2) =
        (.ok loc, s.1, s.2.withFiles files) := run_createFile_ok.mpr ⟨files, hcreate, rfl⟩
  have hholds := (FileSystem.holds_create hcreate).appendAll
    (c.server.transfer c.transfers remote).chunks
  refine ⟨loc, _, hholds, ?_⟩
  unfold retrieve Transfer.ending
  rw [run_bind_of_ok (run_requireOpen hc), run_bind_of_ok hmake, run_bind_of_ok hfile, run_bind,
    run_beginTransfer]
  dsimp only
  rw [run_bind, run_writeChunks]
  cases (c.server.transfer c.transfers remote).failure with
  | none => exact run_checkSize hholds.content?
  | some fault =>
    dsimp only
    cases statusOf? fault <;> rfl

end Session

-- ---------------------------------------------------------------------------
-- Fetchers
-- ---------------------------------------------------------------------------

namespace Fetcher

variable {s t : Fetcher × World} {session : Session} {c : Connection} {path : Path}

def newSession (f : Fetcher) : Session := { host := f.host, channel := f.channel }

theorem run_open_held (h : s.1.session = some session) :
    Fetcher.open.run s = (.ok session, s) := by
  unfold Fetcher.open
  rw [run_bind, run_own]
  simp only [h]
  rfl

/-- A fetcher without a session makes a connection, and keeps it if the directory
can be listed. -/
theorem run_open_anew (h : s.1.session = none) :
    let c := s.1.newSession.connecting s.2
    ∃ asked, World.Inquired (s.2.meeting s.1.channel) asked ∧
      Fetcher.open.run s = match c.server.refusal with
        | some fault =>
          (.error (c.server.close.getD fault), s.1, asked.record (.ftpClosed c.number))
        | none => match c.server.listed s.1.directory with
          | .error fault => (.error (c.server.parting.getD fault), s.1, asked.parted c)
          | .ok listing =>
            let session := { s.1.newSession with connection := some c }
            (.ok session, { s.1 with session := some session, listing := some listing }, asked) := by
  intro c
  have hnew : ({ host := s.1.host, channel := s.1.channel } : Session) = s.1.newSession := rfl
  unfold Fetcher.open
  rw [run_bind, run_own]
  simp only [h]
  cases hr : c.server.refusal with
  | some fault =>
    obtain ⟨asked, hasked, hopen⟩ :=
      Session.run_open_refused (s := (s.1.newSession, s.2)) rfl hr
    have hconnect : (connect s.1.directory).run (s.1.newSession, s.2) =
        (.error (c.server.close.getD fault), s.1.newSession,
          asked.record (.ftpClosed c.number)) := run_bind_of_error hopen
    refine ⟨asked, hasked, ?_⟩
    rw [run_bind, run_within, hnew, hconnect]
    rfl
  | none =>
    obtain ⟨opened, hopened, hopen⟩ :=
      Session.run_open_admitted (s := (s.1.newSession, s.2)) rfl hr
    obtain ⟨asked, hlist, hasked⟩ := Session.run_listSizes (c := c)
      (s := ({ s.1.newSession with connection := some c }, opened)) rfl s.1.directory
    have hconnect : (connect s.1.directory).run (s.1.newSession, s.2) =
        (c.server.listed s.1.directory, { s.1.newSession with connection := some c }, asked) := by
      rw [connect, run_bind_of_ok hopen]
      exact hlist
    refine ⟨asked, IsTrans.trans _ _ _ hopened hasked, ?_⟩
    rw [run_bind, run_within, hnew, hconnect]
    dsimp only
    cases c.server.listed s.1.directory with
    | ok listing => rfl
    | error fault =>
      dsimp only
      rw [run_bind, run_within, Session.run_close rfl]
      cases c.server.parting <;> rfl

theorem run_close_none (h : s.1.session = none) :
    close.run s = (.ok (), { s.1 with session := none, listing := none }, s.2) := by
  unfold close
  rw [run_bind, run_own]
  dsimp only
  rw [run_bind, run_modifyOwn]
  simp only [h]
  rfl

theorem run_close_held (h : s.1.session = some session) (hc : session.connection = some c) :
    close.run s = (raising c.server.parting,
      { s.1 with session := none, listing := none }, s.2.parted c) := by
  unfold close
  rw [run_bind, run_own]
  dsimp only
  rw [run_bind, run_modifyOwn]
  simp only [h]
  rw [run_bind, run_within, Session.run_close hc]
  exact run_ofExcept _ _

theorem run_fetch_unreached {fault : Fault} (hopen : Fetcher.open.run s = (.error fault, t))
    (path : Path) :
    let message := s!"Failed to connect to FTP {s.1.host}: {fault.message}"
    (fetch path).run s = (.ok (failure fault message message), t) := by
  unfold fetch
  rw [run_bind, run_own]
  dsimp only
  rw [run_bind, run_attempt, hopen]
  rfl

theorem run_fetch_unlisted (hopen : Fetcher.open.run s = (.ok session, t))
    (hlisted : t.1.sizes.contains path.name = false) :
    (fetch path).run s = (.ok (s.1.notFound path.name), t) := by
  unfold fetch
  rw [run_bind, run_own]
  dsimp only
  rw [run_bind, run_attempt, hopen]
  dsimp only
  rw [run_bind, run_own]
  simp only [hlisted]
  rfl

def finish (f : Fetcher) (path : Path) : Except Fault Status → Act Fetcher (Outcome Path)
  | .error fault => do
    close
    unlink path
    return failure fault s!"Connection to FTP {f.host} lost: {fault.message}"
      s!"FTP retrieval of {f.remoteFile path.name} failed ({fault.message})"
  | .ok .ok => return .success path
  | .ok .fileNotFound => do
    unlink path
    return f.notFound path.name
  | .ok .readError => do
    unlink path
    close
    return .recoverable s!"FTP retrieval of {f.remoteFile path.name} failed ({Status.readError.text})"

/-- A fetch of an archive that is listed keeps the session that the transfer leaves, and
then sees to its result. -/
theorem run_fetch_transferred {left : Session} {world : World} {result : Except Fault Status}
    (hopen : Fetcher.open.run s = (.ok session, t)) (hlisted : t.1.sizes.contains path.name)
    (hretrieve : (Session.retrieve (s.1.remoteFile path.name) path
      (t.1.sizes.size? path.name)).run (session, t.2) = (result, left, world)) :
    (fetch path).run s =
      (s.1.finish path result).run ({ t.1 with session := some left }, world) := by
  unfold fetch
  rw [run_bind, run_own]
  dsimp only
  rw [run_bind, run_attempt, hopen]
  dsimp only
  rw [run_bind, run_own]
  simp only [hlisted, Bool.not_true, Bool.false_eq_true, if_false]
  rw [run_bind, run_within, hretrieve]
  dsimp only
  rw [run_bind, run_modifyOwn]
  rcases result with fault | _ | _ | _ <;> rfl

/-- A fetch that begins a transfer. Where the connection has to be given up, closing
it comes before the file is removed if a fault passed through the transfer, and
after it otherwise. -/
theorem run_fetch_listed (hopen : Fetcher.open.run s = (.ok session, t))
    (hc : session.connection = some c) (hlisted : t.1.sizes.contains path.name)
    (hroom : t.2.files.Receptive path) :
    let remote := s.1.remoteFile path.name
    let transfer := c.server.transfer c.transfers remote
    ∃ loc files, files.Holds path loc transfer.chunks.flatten ∧
      let kept := { t.1 with session := some { session with connection := some c.begun } }
      let givenUp := { t.1 with session := none, listing := none }
      let after := (t.2.record (.ftpRetrieved c.number remote blockSize)).withFiles files
      (fetch path).run s = match transfer.ending (t.1.sizes.size? path.name) with
        | .ok .ok => (.ok (.success path), kept, after)
        | .ok .fileNotFound => (.ok (s.1.notFound path.name), kept,
            after.withFiles (files.erase loc))
        | .ok .readError => (match c.server.parting with
            | none =>
              .ok (.recoverable s!"FTP retrieval of {remote} failed ({Status.readError.text})")
            | some fault => .error fault,
            givenUp, (after.withFiles (files.erase loc)).parted c)
        | .error fault => match c.server.parting with
          | none => (.ok (failure fault s!"Connection to FTP {s.1.host} lost: {fault.message}"
                s!"FTP retrieval of {remote} failed ({fault.message})"),
              givenUp, (after.parted c).withFiles (files.erase loc))
          | some other => (.error other, givenUp, after.parted c) := by
  intro remote transfer
  obtain ⟨loc, files, hholds, hretrieve⟩ :=
    Session.run_retrieve (s := (session, t.2)) hc hroom remote (t.1.sizes.size? path.name)
  refine ⟨loc, files, hholds, ?_⟩
  intro kept givenUp after
  have hunlink (world : World) : world.files = files →
      world.files.unlink path = .ok (files.erase loc) := fun hw => hw ▸ hholds.unlink
  have hclose (world : World) : close.run (kept, world) =
      (raising c.server.parting, givenUp, world.parted c) :=
    run_close_held (c := c.begun) rfl rfl
  rw [run_fetch_transferred hopen hlisted hretrieve]
  rcases transfer.ending (t.1.sizes.size? path.name) with fault | _ | _ | _ <;> unfold finish
  · dsimp only
    cases hp : c.server.parting with
    | none =>
      rw [run_bind_of_ok (hp ▸ hclose after), run_bind, run_unlink, hunlink _ (after.files_parted c)]
      rfl
    | some other => rw [run_bind_of_error (hp ▸ hclose after)]
  · rfl
  · dsimp only
    rw [run_bind, run_unlink, hunlink _ rfl]
    rfl
  · dsimp only
    rw [run_bind, run_unlink, hunlink _ rfl]
    dsimp only
    cases hp : c.server.parting with
    | none => rw [run_bind_of_ok (hp ▸ hclose _)]; rfl
    | some other => rw [run_bind_of_error (hp ▸ hclose _)]

end Fetcher

end Ftp

end TerrainTiles
