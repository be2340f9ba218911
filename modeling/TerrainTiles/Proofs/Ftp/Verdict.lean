import TerrainTiles.Proofs.Ftp.Moves
import TerrainTiles.Proofs.World.Log

/-!
# How an FTP fetch ends

`Fetcher.verdict` is how a fetch ends by what the server answers: a fault of
connecting or listing is fatal if it means that the host cannot be reached and may
pass otherwise, an archive that is not listed is absent, and so on for the transfer.

A fetch ends so whatever it was used for before, as long as quitting fails as FTP
calls may fail and closing does not (`fetch_eq_verdict`): then no fault comes
through, files are only touched once a transfer was begun, and nothing is left at
the path of a transfer that was not a success.

For any server, `fetch_fails_iff` says when a fetch fails instead: exactly where a
transfer breaks that the connection is given up for, and closing the connection
fails. What the transfer brought is left behind then if it is a fault that passed
through the transfer.
-/

namespace TerrainTiles

open Act

theorem FileSystem.Holds.at?_erase {fs : FileSystem} {path : Path} {loc : Location}
    {content : Bytes} (h : fs.Holds path loc content) : (fs.erase loc).at? path = none :=
  at?_unlink h.unlink

theorem FileSystem.at?_ne_none_of_content? {fs : FileSystem} {path : Path} {content : Bytes}
    (h : fs.content? path = some content) : fs.at? path ≠ none := by
  intro hnone
  simp [FileSystem.content?, hnone] at h

theorem Event.not_isTransfer_of_isInquiry {event : Event} (h : event.isInquiry) :
    event.isTransfer = false := by
  cases event <;> first | rfl | cases h

structure World.Untransferred (before after : World) : Prop where
  files : after.files = before.files
  events : Records (fun event => event.isTransfer = false) before after

namespace World

instance : IsPreorder World Untransferred where
  refl _ := ⟨rfl, records_of_eq rfl⟩
  trans _ _ _ h h' := ⟨h'.files.trans h.files, h.events.trans h'.events⟩

variable {world asked : World}

theorem untransferred_record (world : World) {event : Event} (h : event.isTransfer = false) :
    Untransferred world (world.record event) := ⟨rfl, [event], rfl, by simpa using h⟩

theorem Inquired.untransferred (h : Inquired world asked) : Untransferred world asked :=
  ⟨by rw [h.rest], h.events.mono fun _ => Event.not_isTransfer_of_isInquiry⟩

theorem untransferred_meeting (world : World) (channel : Channel) :
    Untransferred world (world.meeting channel) := by
  rw [meeting_eq]
  exact ⟨rfl, [.ftpCreated world.connections], rfl, by simp [Event.isTransfer]⟩

theorem untransferred_parted (world : World) (c : Ftp.Connection) :
    Untransferred world (world.parted c) := by
  unfold parted
  dsimp only
  split
  · exact IsTrans.trans _ _ _ (world.untransferred_record rfl) (untransferred_record _ rfl)
  · exact world.untransferred_record rfl

theorem Untransferred.transfers_since {later : World} (h : Untransferred world asked)
    {event : Event} (he : event.isTransfer)
    (h' : Records (fun event => event.isTransfer = false) (asked.record event) later) :
    (world.since later).filter Event.isTransfer = [event] := by
  have hbegun : world.events <:+ (asked.record event).events :=
    h.events.suffix.trans (List.suffix_cons _ _)
  have hnone {before after : World} (hr : Records (fun event => event.isTransfer = false)
      before after) : (before.since after).filter Event.isTransfer = [] := by
    refine List.filter_eq_nil_iff.mpr fun other ho => ?_
    simp [hr.of_mem_since ho]
  rw [since_trans hbegun h'.suffix, since_record h.events.suffix, List.filter_append,
    List.filter_append, hnone h.events, hnone h', List.filter_cons_of_pos he]
  rfl

end World

namespace Ftp

-- ---------------------------------------------------------------------------
-- What is reached
-- ---------------------------------------------------------------------------

namespace Server

/-- The listing that a new session gets of a directory. -/
def answer (server : Server) (directory : String) : Except Fault Listing :=
  match server.refusal with
  | some fault => .error fault
  | none => server.listed directory

def admitted (server : Server) (directory : String) : Except Fault Listing :=
  match server.refusal with
  | some fault => .error (server.close.getD fault)
  | none => (server.listed directory).mapError server.parting.getD

/-- What a transfer brought stays: it was good, or a fault passed through it and the
connection cannot be closed. -/
def leaves (server : Server) : Except Fault Status → Bool
  | .ok status => status = .ok
  | .error _ => server.parting.isSome

structure Courteous (server : Server) : Prop where
  quit : ∀ fault, server.quit = some fault → fault.isFtp
  close : server.close = none

variable {server : Server}

theorem Courteous.parting (h : server.Courteous) : server.parting = none := by
  unfold Server.parting
  split
  · rfl
  · next fault hq => rw [if_pos (h.quit fault hq), h.close]

theorem Courteous.admitted (h : server.Courteous) (directory : String) :
    server.admitted directory = server.answer directory := by
  unfold Server.admitted answer
  rw [h.close, h.parting]
  split
  · rfl
  · cases server.listed directory <;> rfl

theorem courteous_default : Courteous {} := ⟨by simp, rfl⟩

end Server

namespace Fetcher

variable {s t : Fetcher × World} {c : Connection} {listing : Listing} {path : Path} {fault : Fault}

/-- The connection and the listing that a fetch uses: those that are held, or those
that the next server gives. -/
def reached (f : Fetcher) (world : World) (answer : Server → String → Except Fault Listing) :
    Except Fault (Connection × Listing) :=
  match f.session with
  | some session => match session.connection with
    | some c => .ok (c, f.sizes)
    | none => .error (.sessionClosed session.host)
  | none =>
    let c := f.newSession.connecting world
    (answer c.server f.directory).map fun listing => (c, listing)

theorem reached_courteous (h : Serves Server.Courteous s) :
    s.1.reached s.2 Server.admitted = s.1.reached s.2 Server.answer := by
  unfold reached
  split
  · rfl
  · dsimp only
    rw [Server.Courteous.admitted]
    exact (forall_nextServer Server.courteous_default h.coming).1

theorem server_of_reached {P : Server → Prop} (hplain : P {}) (hs : Serves P s)
    {answer : Server → String → Except Fault Listing}
    (h : s.1.reached s.2 answer = .ok (c, listing)) : P c.server := by
  unfold reached at h
  split at h
  · next session hheld =>
    split at h
    · next c' hc =>
      cases h
      exact hs.held _ hheld _ hc
    · cases h
  · dsimp only at h
    cases ha : answer (s.1.newSession.connecting s.2).server s.1.directory with
    | error fault => simp [ha, Except.map] at h
    | ok found =>
      simp only [ha, Except.map, Except.ok.injEq, Prod.mk.injEq] at h
      rw [← h.1]
      exact (forall_nextServer hplain hs.coming).1

theorem open_reaches (hs : s.1.Attached) (h : s.1.reached s.2 Server.admitted = .ok (c, listing)) :
    ∃ session t, Fetcher.open.run s = (.ok session, t) ∧ t.1.sizes = listing ∧
      session.connection = some c ∧ s.2.Untransferred t.2 := by
  cases hf : s.1.session with
  | some session =>
    obtain ⟨c', hc⟩ := hs.connection hf
    simp only [reached, hf, hc, Except.ok.injEq, Prod.mk.injEq] at h
    obtain ⟨rfl, rfl⟩ := h
    exact ⟨session, s, run_open_held hf, rfl, hc, Std.Refl.refl _⟩
  | none =>
    obtain ⟨asked, hasked, hopen⟩ := run_open_anew hf
    have huntransferred : s.2.Untransferred asked :=
      IsTrans.trans _ _ _ (s.2.untransferred_meeting _) hasked.untransferred
    simp only [reached, hf, Server.admitted] at h
    rw [hopen]
    cases hr : (s.1.newSession.connecting s.2).server.refusal with
    | some fault => simp [hr, Except.map] at h
    | none =>
      cases hl : (s.1.newSession.connecting s.2).server.listed s.1.directory with
      | error fault => simp [hr, hl, Except.map] at h
      | ok found =>
        simp only [hr, hl, Except.map, mapError_ok, Except.ok.injEq, Prod.mk.injEq] at h
        obtain ⟨rfl, rfl⟩ := h
        exact ⟨_, _, rfl, rfl, rfl, huntransferred⟩

theorem open_unreached (hs : s.1.Attached) (h : s.1.reached s.2 Server.admitted = .error fault) :
    ∃ t, Fetcher.open.run s = (.error fault, t) ∧ s.2.Untransferred t.2 := by
  cases hf : s.1.session with
  | some session =>
    obtain ⟨c', hc⟩ := hs.connection hf
    simp [reached, hf, hc] at h
  | none =>
    obtain ⟨asked, hasked, hopen⟩ := run_open_anew hf
    have huntransferred : s.2.Untransferred asked :=
      IsTrans.trans _ _ _ (s.2.untransferred_meeting _) hasked.untransferred
    simp only [reached, hf, Server.admitted] at h
    rw [hopen]
    cases hr : (s.1.newSession.connecting s.2).server.refusal with
    | some fault =>
      simp only [hr, Except.map, Except.error.injEq] at h
      subst h
      exact ⟨_, rfl, IsTrans.trans _ _ _ huntransferred (asked.untransferred_record rfl)⟩
    | none =>
      cases hl : (s.1.newSession.connecting s.2).server.listed s.1.directory with
      | error fault =>
        simp only [hr, hl, Except.map, mapError_error, Except.error.injEq] at h
        subst h
        exact ⟨_, rfl, IsTrans.trans _ _ _ huntransferred (asked.untransferred_parted _)⟩
      | ok found => simp [hr, hl, Except.map] at h

-- ---------------------------------------------------------------------------
-- Any server
-- ---------------------------------------------------------------------------

/-- The connection and the listing with which a fetch begins a transfer, if it does. -/
def begins (f : Fetcher) (world : World) (path : Path) : Option (Connection × Listing) :=
  (f.reached world Server.answer).toOption.filter fun (_, listing) =>
    (listing.lookup path.name).isSome

/-- The transfer that a connection makes of an archive next. -/
def incoming (f : Fetcher) (path : Path) (c : Connection) : Transfer :=
  c.server.transfer c.transfers (f.remoteFile path.name)

def ending (f : Fetcher) (path : Path) (c : Connection) (listing : Listing) :
    Except Fault Status :=
  (f.incoming path c).ending (listing.lookup path.name).join

def concluded (f : Fetcher) (path : Path) (c : Connection) (listing : Listing) :
    Except Fault (Outcome Path) :=
  let remote := f.remoteFile path.name
  match f.ending path c listing with
  | .ok .ok => .ok (.success path)
  | .ok .fileNotFound => .ok (f.notFound path.name)
  | .ok .readError => match c.server.parting with
    | none => .ok (.recoverable s!"FTP retrieval of {remote} failed ({Status.readError.text})")
    | some fault => .error fault
  | .error fault => match c.server.parting with
    | none => .ok (failure fault s!"Connection to FTP {f.host} lost: {fault.message}"
        s!"FTP retrieval of {remote} failed ({fault.message})")
    | some other => .error other

/-- Closing changes nothing about what is reached, only about the fault where nothing is. -/
theorem reached_ok_iff (f : Fetcher) (world : World) {found : Connection × Listing} :
    f.reached world Server.admitted = .ok found ↔ f.reached world Server.answer = .ok found := by
  unfold reached
  split
  · rfl
  · dsimp only
    unfold Server.admitted Server.answer
    cases (f.newSession.connecting world).server.refusal with
    | some fault => simp [Except.map]
    | none =>
      cases (f.newSession.connecting world).server.listed f.directory <;> simp [Except.map]

theorem begins_some : s.1.begins s.2 path = some (c, listing) ↔
    s.1.reached s.2 Server.answer = .ok (c, listing) ∧
      ∃ size, listing.lookup path.name = some size := by
  unfold begins
  cases s.1.reached s.2 Server.answer with
  | error fault => simp [Except.toOption]
  | ok reached => simp [Except.toOption, Option.filter_eq_some_iff, Option.isSome_iff_exists]

theorem lookup_of_begins_none (h : s.1.begins s.2 path = none)
    (hr : s.1.reached s.2 Server.answer = .ok (c, listing)) : listing.lookup path.name = none := by
  cases hl : listing.lookup path.name with
  | none => rfl
  | some size => simp [begins_some.mpr ⟨hr, size, hl⟩] at h

theorem fetch_unbegun (hs : s.1.Attached) (h : s.1.begins s.2 path = none) :
    ∃ t, (fetch path).run s = (.ok (match s.1.reached s.2 Server.admitted with
        | .error fault =>
          let message := s!"Failed to connect to FTP {s.1.host}: {fault.message}"
          failure fault message message
        | .ok _ => s.1.notFound path.name), t) ∧ s.2.Untransferred t.2 := by
  cases hr : s.1.reached s.2 Server.admitted with
  | error fault =>
    obtain ⟨t, hopen, ht⟩ := open_unreached hs hr
    exact ⟨t, run_fetch_unreached hopen path, ht⟩
  | ok reached =>
    obtain ⟨c, listing⟩ := reached
    obtain ⟨session, t, hopen, hsizes, -, ht⟩ := open_reaches hs hr
    refine ⟨t, run_fetch_unlisted hopen ?_, ht⟩
    rw [hsizes, Listing.contains_eq_false_iff]
    exact lookup_of_begins_none h ((reached_ok_iff s.1 s.2).mp hr)

theorem fetch_begun (hs : s.1.Attached) (hroom : s.2.files.Receptive path)
    (h : s.1.begins s.2 path = some (c, listing)) :
    ∃ t, (fetch path).run s = (s.1.concluded path c listing, t) ∧
      (s.2.since t.2).filter Event.isTransfer =
        [.ftpRetrieved c.number (s.1.remoteFile path.name) blockSize] ∧
      if c.server.leaves (s.1.ending path c listing) then
        t.2.files.content? path = some (s.1.incoming path c).chunks.flatten
      else t.2.files.at? path = none := by
  obtain ⟨hreached, size, hlisted⟩ := begins_some.mp h
  obtain ⟨session, u, hopen, hsizes, hc, hu⟩ :=
    open_reaches hs ((reached_ok_iff s.1 s.2).mpr hreached)
  obtain ⟨loc, files, hholds, hrun⟩ :=
    run_fetch_listed hopen hc (by simp [hsizes, Listing.contains_iff, hlisted]) (hu.files ▸ hroom)
  let begun := u.2.record (.ftpRetrieved c.number (s.1.remoteFile path.name) blockSize)
  have hbegun {after : World} (h : World.Records (fun event => event.isTransfer = false)
      begun after) : (s.2.since after).filter Event.isTransfer =
        [.ftpRetrieved c.number (s.1.remoteFile path.name) blockSize] := hu.transfers_since rfl h
  have hparted (world : World) (hw : world.events = begun.events) :
      World.Records (fun event => event.isTransfer = false) begun (world.parted c) :=
    (World.records_of_eq hw).trans (world.untransferred_parted c).events
  dsimp only at hrun
  rw [hrun, hsizes]
  unfold concluded ending incoming Server.leaves Listing.size?
  dsimp only
  rcases (c.server.transfer c.transfers (s.1.remoteFile path.name)).ending
    (listing.lookup path.name).join with fault | _ | _ | _
  · cases hp : c.server.parting with
    | none => exact ⟨_, rfl, hbegun (hparted _ rfl), hholds.at?_erase⟩
    | some other =>
      refine ⟨_, rfl, hbegun (hparted _ rfl), ?_⟩
      simp only [Option.isSome_some, if_true, World.files_parted]
      exact hholds.content?
  · exact ⟨_, rfl, hbegun (World.records_of_eq rfl), hholds.content?⟩
  · exact ⟨_, rfl, hbegun (World.records_of_eq rfl), hholds.at?_erase⟩
  · refine ⟨_, rfl, hbegun (hparted _ rfl), ?_⟩
    simp only [reduceCtorEq, decide_false, Bool.false_eq_true, if_false, World.files_parted]
    exact hholds.at?_erase

-- ---------------------------------------------------------------------------
-- When a fetch fails
-- ---------------------------------------------------------------------------

/-- The connection is given up after a transfer that ends so. -/
def givesUp : Except Fault Status → Bool
  | .ok status => status = .readError
  | .error _ => true

theorem concluded_error_iff {f : Fetcher} :
    f.concluded path c listing = .error fault ↔
      givesUp (f.ending path c listing) ∧ c.server.parting = some fault := by
  unfold concluded givesUp
  rcases f.ending path c listing with other | _ | _ | _
  · cases c.server.parting <;> simp
  · simp
  · simp
  · cases c.server.parting <;> simp

/-- A fetch fails exactly with the fault of closing the connection that it gives up
after a transfer. What a transfer brought that was no success stays at the path
exactly if a fault passed through it and the connection cannot be closed. -/
theorem fetch_fails_iff {f : Fetcher} (hidle : f.Idle) (world : World) (uses : List Use)
    (path : Path) :
    let s := afterUses uses (f, world)
    s.2.files.Receptive path →
    let ended := (fetch path).run s
    (∀ fault, ended.1 = .error fault ↔ ∃ c listing, s.1.begins s.2 path = some (c, listing) ∧
      givesUp (s.1.ending path c listing) ∧ c.server.parting = some fault) ∧
    ∀ c listing, s.1.begins s.2 path = some (c, listing) → s.1.ending path c listing ≠ .ok .ok →
      (ended.2.2.files.at? path ≠ none ↔
        (∃ fault, s.1.ending path c listing = .error fault) ∧ c.server.parting ≠ none) := by
  intro s hroom ended
  have hattached : s.1.Attached := attached_of_moves
    (moves_afterUses uses (s := (f, world)) hidle.attached) hidle.attached
  cases hbegins : s.1.begins s.2 path with
  | none =>
    obtain ⟨t, hrun, -⟩ := fetch_unbegun hattached hbegins
    simp [ended, hrun]
  | some found =>
    obtain ⟨c, listing⟩ := found
    obtain ⟨t, hrun, -, hleft⟩ := fetch_begun hattached hroom hbegins
    have hended : ended = (s.1.concluded path c listing, t) := hrun
    refine ⟨fun fault => ?_, ?_⟩
    · rw [hended, concluded_error_iff]
      constructor
      · exact fun h => ⟨c, listing, rfl, h⟩
      · rintro ⟨_, _, ⟨⟩, h⟩
        exact h
    · rintro _ _ ⟨⟩ hbad
      rw [hended]
      cases hending : s.1.ending path c listing with
      | ok status =>
        have hstatus : status ≠ .ok := by
          rintro rfl
          exact hbad hending
        simp only [hending, Server.leaves, hstatus, decide_false, Bool.false_eq_true, if_false]
          at hleft
        simp [hleft]
      | error fault =>
        rw [hending] at hleft
        cases hp : c.server.parting with
        | none =>
          simp only [Server.leaves, hp, Option.isSome_none, Bool.false_eq_true, if_false] at hleft
          simp [hleft]
        | some other =>
          simp only [Server.leaves, hp, Option.isSome_some, if_true] at hleft
          simpa using FileSystem.at?_ne_none_of_content? hleft

def idle : Fetcher := { host := "host", directory := "/d", channel := 0 }

theorem idle_idle : idle.Idle := ⟨rfl, rfl⟩

def place : Path := ⟨.root, ["dem", "t.zip"]⟩

def sending (transfer : Transfer) (quit : Option Fault) : Server where
  quit
  catalogue := { entries := [("t.zip", [("type", "file"), ("size", "2")])] }
  files _ := [("/d/t.zip", transfer)]

def meetingOnly (servers : List Server) : World where
  files := .empty
  decoder := .scripted [] (.ok none)
  servers _ := servers

/-- The connection is lost after a byte, and the answer to quitting is not readable. -/
def lost : World :=
  meetingOnly [sending { chunks := [[97]], failure := some (.reported { kind := .connectionReset }) }
    (some (.reported { kind := .value, details := [.text "invalid start byte"] }))]

theorem receptive_lost : lost.files.Receptive place := ⟨rfl, _, rfl⟩

theorem fetch_fails_iff_lost :
    lost.files.Receptive place ∧ ∃ fault, ((fetch place).run (idle, lost)).1 = .error fault ∧
      ((fetch place).run (idle, lost)).2.2.files.at? place ≠ none := by
  obtain ⟨hfails, hstays⟩ := fetch_fails_iff idle_idle lost [] place receptive_lost
  obtain ⟨⟨c, listing⟩, hbegins⟩ : ∃ found, idle.begins lost place = some found :=
    Option.isSome_iff_exists.mp (by decide +kernel)
  have hbroken : (idle.begins lost place).all (fun found =>
      (match idle.ending place found.1 found.2 with
        | .ok _ => false
        | .error _ => true) && found.1.server.parting.isSome) := by decide +kernel
  rw [hbegins] at hbroken
  cases hending : idle.ending place c listing with
  | ok status => simp [hending] at hbroken
  | error fault =>
    obtain ⟨other, hparting⟩ : ∃ other, c.server.parting = some other :=
      Option.isSome_iff_exists.mp (by simpa [hending] using hbroken)
    have hends : (afterUses [] (idle, lost)).1.ending place c listing = .error fault := hending
    refine ⟨receptive_lost, other, ?_, ?_⟩
    · exact (hfails other).mpr ⟨c, listing, hbegins, by rw [hends]; rfl, hparting⟩
    · refine (hstays c listing hbegins (by simp [hends])).mpr ⟨⟨fault, hends⟩, by simp [hparting]⟩

/-- A fault of closing the connection comes through, and what was transferred stays. -/
theorem fetch_raises_lost :
    idle.Idle ∧ lost.files.Receptive place ∧
      ((fetch place).run (idle, lost)).1.isOk = false ∧
      ((fetch place).run (idle, lost)).2.2.files.content? place = some [97] :=
  ⟨idle_idle, receptive_lost, by decide +kernel, by decide +kernel⟩

-- ---------------------------------------------------------------------------
-- Servers that let go
-- ---------------------------------------------------------------------------

/-- How a fetch ends whose transfer is the next one on a connection, by the size that the
archive is listed with. -/
def received (f : Fetcher) (path : Path) (c : Connection) (size : Option Int) : Outcome Path :=
  let transfer := f.incoming path c
  let failed (why : String) := s!"FTP retrieval of {f.remoteFile path.name} failed ({why})"
  match transfer.failure with
  | none => match size with
    | none => .success path
    | some size =>
      if (transfer.chunks.flatten.length : Int) = size then .success path
      else .recoverable (failed Status.readError.text)
  | some fault =>
    if fault.kind = .ftpPermanent ∧ fault.message.startsWith "550" then
      .absent s!"{path.name} not found on {f.host}"
    else if fault.isSocket then
      .fatal s!"Connection to FTP {f.host} lost: {fault.message}" (some fault)
    else if fault.kind = .ftpPermanent ∨ fault.kind.isFtpProtocol then
      .recoverable (failed Status.readError.text)
    else .recoverable (failed fault.message) (some fault)

def verdict (f : Fetcher) (world : World) (path : Path) : Outcome Path :=
  match f.reached world Server.answer with
  | .error fault =>
    let message := s!"Failed to connect to FTP {f.host}: {fault.message}"
    if fault.isSocket then .fatal message (some fault) else .recoverable message (some fault)
  | .ok (c, listing) => match listing.lookup path.name with
    | none => .absent s!"{path.name} not found on {f.host}"
    | some size => f.received path c size

/-- What may break a transfer off as part of the protocol does not mean that the host
cannot be reached. -/
theorem not_isSocket_of_protocol (h : fault.kind = .ftpPermanent ∨ fault.kind.isFtpProtocol) :
    fault.isSocket = false := by
  unfold Fault.isSocket Fault.isOS
  revert h
  generalize fault.kind = kind
  cases kind <;> simp [Kind.isFtpProtocol, Kind.isSocket, Kind.isOS]

theorem concluded_of_parting (h : c.server.parting = none) (f : Fetcher) {size : Option Int}
    (hlisted : listing.lookup path.name = some size) :
    f.concluded path c listing = .ok (f.received path c size) := by
  unfold concluded ending Transfer.ending received
  rw [h, hlisted]
  dsimp only [Option.join_some]
  cases (f.incoming path c).failure with
  | none =>
    cases size with
    | none => simp
    | some size =>
      by_cases hsize : ((f.incoming path c).chunks.flatten.length : Int) = size
      · simp only [Option.mem_def, Option.some.injEq, forall_eq', if_pos hsize]
      · simp only [Option.mem_def, Option.some.injEq, forall_eq', if_neg hsize]
  | some fault =>
    dsimp only [Session.statusOf?]
    by_cases hpermanent : fault.kind = .ftpPermanent
    · have hsocket := not_isSocket_of_protocol (.inl hpermanent)
      by_cases hmissing : fault.message.startsWith "550"
      · simp [hpermanent, hmissing, notFound]
      · simp [hpermanent, hmissing, hsocket]
    · by_cases hprotocol : fault.kind.isFtpProtocol
      · have hsocket := not_isSocket_of_protocol (.inr hprotocol)
        simp [hpermanent, hprotocol, hsocket]
      · simp only [hpermanent, hprotocol, false_and, if_false]
        rfl

theorem isSuccess_received (h : c.server.parting = none) (f : Fetcher) {size : Option Int}
    (hlisted : listing.lookup path.name = some size) :
    (f.received path c size).isSuccess = c.server.leaves (f.ending path c listing) := by
  have hconcluded := concluded_of_parting h f hlisted
  unfold concluded at hconcluded
  rw [h] at hconcluded
  unfold Server.leaves
  rcases hending : f.ending path c listing with fault | _ | _ | _ <;> rw [hending] at hconcluded <;>
    rw [← Except.ok.inj hconcluded]
  · rw [h]
    exact failure_isSuccess fault _ _
  · rfl
  · rfl
  · rfl

/-- Whatever a fetcher was used for before, a fetch ends as `verdict` says. Unless it
begins a transfer it touches no file; if it does, what the transfer brought is at the
path after a success and nothing is there otherwise. -/
theorem fetch_eq_verdict {f : Fetcher} {world : World} (hidle : f.Idle)
    (hcourteous : ∀ server ∈ world.servers f.channel, server.Courteous) (uses : List Use)
    (path : Path) :
    let s := afterUses uses (f, world)
    s.2.files.Receptive path →
    ∃ t, (fetch path).run s = (.ok (s.1.verdict s.2 path), t) ∧
      match s.1.begins s.2 path with
      | none => t.2.files = s.2.files ∧ ∀ event ∈ s.2.since t.2, event.isTransfer = false
      | some (c, _) =>
        (s.2.since t.2).filter Event.isTransfer =
          [.ftpRetrieved c.number (s.1.remoteFile path.name) blockSize] ∧
        if (s.1.verdict s.2 path).isSuccess then
          t.2.files.content? path = some (s.1.incoming path c).chunks.flatten
        else t.2.files.at? path = none := by
  intro s hroom
  have hmoves := moves_afterUses uses (s := (f, world)) hidle.attached
  have hattached : s.1.Attached := attached_of_moves hmoves hidle.attached
  have hserves : Serves Server.Courteous s :=
    serves_of_moves Server.courteous_default hmoves (serves_of_idle hidle hcourteous)
  have hreached := reached_courteous hserves
  cases hbegins : s.1.begins s.2 path with
  | none =>
    obtain ⟨t, hrun, huntransferred⟩ := fetch_unbegun hattached hbegins
    refine ⟨t, ?_, huntransferred.files, fun event => huntransferred.events.of_mem_since⟩
    rw [hrun, hreached]
    unfold verdict
    cases hr : s.1.reached s.2 Server.answer with
    | error fault => rfl
    | ok found =>
      obtain ⟨c, listing⟩ := found
      simp [lookup_of_begins_none hbegins hr, notFound]
  | some found =>
    obtain ⟨c, listing⟩ := found
    obtain ⟨t, hrun, htransfers, hleft⟩ := fetch_begun hattached hroom hbegins
    obtain ⟨hfound, size, hlisted⟩ := begins_some.mp hbegins
    have hparting : c.server.parting = none :=
      (server_of_reached Server.courteous_default hserves hfound).parting
    have hverdict : s.1.verdict s.2 path = s.1.received path c size := by
      simp [verdict, hfound, hlisted]
    refine ⟨t, ?_, htransfers, ?_⟩
    · rw [hrun, hverdict, concluded_of_parting hparting s.1 hlisted]
    · rwa [hverdict, isSuccess_received hparting s.1 hlisted]

def lostOnce : World :=
  meetingOnly [sending { chunks := [[97]], failure := some (.reported { kind := .connectionReset }) }
    (some (permanent "500 Bye")), sending { chunks := [[97], [98]] } none]

def cutShort : World := meetingOnly [sending { chunks := [[97]] } none]

theorem fetch_eq_verdict_lostOnce :
    let s := afterUses [.fetch place] (idle, lostOnce)
    (s.2.files.Receptive place ∧ ∃ t, (fetch place).run s = (.ok (s.1.verdict s.2 place), t) ∧
      (s.1.verdict s.2 place).isSuccess ∧ t.2.files.content? place = some [97, 98]) ∧
    let u := afterUses [] (idle, cutShort)
    u.2.files.Receptive place ∧ ∃ t, (fetch place).run u = (.ok (u.1.verdict u.2 place), t) ∧
      (u.1.verdict u.2 place).isSuccess = false ∧ t.2.files.at? place = none := by
  intro s
  have hcourteous : ∀ server ∈ lostOnce.servers idle.channel, server.Courteous := by
    simp only [lostOnce, meetingOnly, List.mem_cons, List.not_mem_nil, or_false]
    rintro server (rfl | rfl)
    · exact ⟨by rintro _ ⟨⟩; rfl, rfl⟩
    · exact ⟨by rintro _ ⟨⟩, rfl⟩
  have hcourteous' : ∀ server ∈ cutShort.servers idle.channel, server.Courteous := by
    simp only [cutShort, meetingOnly, List.mem_singleton]
    rintro server rfl
    exact ⟨by rintro _ ⟨⟩, rfl⟩
  have hroom : s.2.files.Receptive place := ⟨rfl, _, rfl⟩
  obtain ⟨t, hrun, h⟩ := fetch_eq_verdict idle_idle hcourteous [.fetch place] place hroom
  have hsuccess : (s.1.verdict s.2 place).isSuccess := by decide +kernel
  have hbytes : (s.1.begins s.2 place).map (fun begun => (s.1.incoming place begun.1).chunks.flatten) =
      some [97, 98] := by decide +kernel
  refine ⟨⟨hroom, t, hrun, hsuccess, ?_⟩, ?_⟩
  · obtain ⟨begun, hbegins, hchunks⟩ := Option.map_eq_some_iff.mp hbytes
    rw [hbegins] at h
    dsimp only at h
    rw [if_pos hsuccess, hchunks] at h
    exact h.2
  · intro u
    have hroom : u.2.files.Receptive place := ⟨rfl, _, rfl⟩
    obtain ⟨t, hrun, h⟩ := fetch_eq_verdict idle_idle hcourteous' [] place hroom
    have hfailure : (u.1.verdict u.2 place).isSuccess = false := by decide +kernel
    have hbegun : (u.1.begins u.2 place).isSome := by decide +kernel
    obtain ⟨begun, hbegins⟩ := Option.isSome_iff_exists.mp hbegun
    rw [hbegins] at h
    dsimp only at h
    rw [if_neg (Bool.eq_false_iff.mp hfailure)] at h
    exact ⟨hroom, t, hrun, hfailure, h.2⟩

end Fetcher

end Ftp

end TerrainTiles
