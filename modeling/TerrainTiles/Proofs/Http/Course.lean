import TerrainTiles.Proofs.Files.Rewriting
import TerrainTiles.Proofs.Http.Transfer
import TerrainTiles.Proofs.World.Log

/-!
# The course of a fetch over HTTP

What an attempt comes to is a function of the reply it gets and the files it finds
(`Reply.attempted`), whatever they are. Attempts are repeated as long as they are
interrupted and there are waits left; `lastAttempt` is the one that ends this. So the
outcome of a fetch and the files it leaves are those of its last attempt
(`run_fetchWith`).
-/

namespace TerrainTiles

def World.upcoming (world : World) (channel : Channel) (n : Nat) : List Http.Reply :=
  (world.replies channel ++ List.replicate n (Http.Reply.failed Http.noRoute)).take n

/-- What was recorded between two moments but for the arrival of bodies. -/
def World.exchange (before after : World) : List Event :=
  (World.since before after).filter fun event => event ≠ .httpStreamed Http.chunkSize

theorem World.upcoming_succ (world : World) (channel : Channel) (n : Nat) :
    world.upcoming channel (n + 1) =
      (world.nextReply channel).1 :: (world.nextReply channel).2.upcoming channel n := by
  unfold upcoming nextReply
  cases hr : world.replies channel with
  | nil => simp [hr, List.replicate_succ]
  | cons reply rest =>
    have hmin : min (n - rest.length) (n + 1) = n - rest.length := by omega
    simp [update, List.take_append, List.take_replicate, hmin]

theorem World.upcoming_congr {world world' : World} (h : world'.replies = world.replies)
    (channel : Channel) (n : Nat) : world'.upcoming channel n = world.upcoming channel n := by
  rw [upcoming, h, upcoming]

theorem World.exchange_trans {before after later : World} (h : before.events <:+ after.events)
    (h' : after.events <:+ later.events) :
    before.exchange later = before.exchange after ++ after.exchange later := by
  rw [exchange, since_trans h h', List.filter_append, exchange, exchange]

namespace Http

open Act

-- ---------------------------------------------------------------------------
-- What an attempt comes to
-- ---------------------------------------------------------------------------

def Reply.read (url : String) : Reply → Except Fault Response
  | failed fault => .error fault
  | answered response =>
    match response.statusFault? url with
    | some fault => .error fault
    | none => .ok response

/-- What becomes of a response that is written to a file, and the files it leaves. The
file stays unless the body broke off or has another length than the declared one; a
declared length that is no number comes to light when the file has been written. -/
def Response.stored (response : Response) (url : String) (loc : Location) (files : FileSystem) :
    Except Fault Nat × FileSystem :=
  let body := response.chunks.flatten
  match response.failure with
  | some fault => (.error fault, files.erase loc)
  | none =>
    match response.declaredLength? with
    | none => (.ok body.length, files.set loc (.file body))
    | some text =>
      match Text.readInteger text with
      | .error e => (.error (.integer e), files.set loc (.file body))
      | .ok declared =>
        if declared = body.length then (.ok body.length, files.set loc (.file body))
        else (.error (.sizeMismatch url text body.length), files.erase loc)

def Reply.taken (url : String) (path : Path) (files : FileSystem) (reply : Reply) :
    Except Fault Nat × FileSystem :=
  match reply.read url with
  | .error fault => (.error fault, files)
  | .ok response =>
    match files.create path with
    | .error e => (.error (.file e), files)
    | .ok (loc, _) => response.stored url loc files

def Reply.attempted (url : String) (path : Path) (files : FileSystem) (reply : Reply) :
    Except Fault Nat × FileSystem :=
  match files.makeDirectories path.parent with
  | (.error e, made) => (.error (.file e), made)
  | (.ok (), made) => reply.taken url path made

def concluded (url : String) (path : Path) :
    Except Fault Nat × FileSystem → Except Fault (Outcome Path) × FileSystem
  | (.ok _, files) => (.ok (.success path), files)
  | (.error fault, files) =>
    if fault.isOS then
      match files.unlink path with
      | .ok left => (.ok (.absent s!"http error: {fault.message} on {url}" (some fault)), left)
      | .error e => (.error (.file e), files)
    else (.error fault, files)

-- ---------------------------------------------------------------------------
-- Which attempt is the last
-- ---------------------------------------------------------------------------

structure Attempt where
  earlier : Nat
  reply : Reply
  files : FileSystem

def Attempt.result (attempt : Attempt) (url : String) (path : Path) :
    Except Fault Nat × FileSystem := attempt.reply.attempted url path attempt.files

def Attempt.later (attempt : Attempt) : Attempt := { attempt with earlier := attempt.earlier + 1 }

def lastAttempt (url : String) (path : Path) : Reply → List Reply → FileSystem → Attempt
  | reply, [], files => ⟨0, reply, files⟩
  | reply, next :: rest, files =>
    match reply.attempted url path files with
    | (.ok _, _) => ⟨0, reply, files⟩
    | (.error fault, left) =>
      if fault.isTransient then (lastAttempt url path next rest left).later else ⟨0, reply, files⟩

section

variable {url : String} {path : Path} {files left : FileSystem} {reply next : Reply}
  {rest : List Reply} {fault : Fault} {loc : Location}

theorem lastAttempt_of_final
    (h : ∀ fault, (reply.attempted url path files).1 = .error fault → fault.isTransient = false) :
    lastAttempt url path reply rest files = ⟨0, reply, files⟩ := by
  cases rest with
  | nil => rfl
  | cons next rest =>
    unfold lastAttempt
    rcases hr : reply.attempted url path files with ⟨fault | n, left⟩
    · simp [h fault (by rw [hr])]
    · rfl

theorem lastAttempt_of_transient (h : reply.attempted url path files = (.error fault, left))
    (ht : fault.isTransient) :
    lastAttempt url path reply (next :: rest) files = (lastAttempt url path next rest left).later := by
  rw [lastAttempt, h]
  exact if_pos ht

theorem keepsDirectories_stored (response : Response) (hn : files.node? loc ≠ some .directory) :
    files.KeepsDirectories (response.stored url loc files).2 := by
  have hset : files.KeepsDirectories (files.set loc (.file response.chunks.flatten)) :=
    FileSystem.keepsDirectories_set hn
  have herase := FileSystem.keepsDirectories_erase hn
  unfold Response.stored
  dsimp only
  repeat' split
  all_goals assumption

theorem keepsDirectories_taken (files : FileSystem) (reply : Reply) :
    files.KeepsDirectories (reply.taken url path files).2 := by
  unfold Reply.taken
  split
  · exact .refl files
  · split
    · exact .refl files
    · next hcreate =>
      exact keepsDirectories_stored _ (FileSystem.create_eq_ok hcreate).2.1

theorem directory_of_transient (h : reply.attempted url path files = (.error fault, left))
    (ht : fault.isTransient) :
    (files.makeDirectories path.parent).1 = .ok () ∧ left.isDirectory path.parent := by
  unfold Reply.attempted at h
  rcases hmake : files.makeDirectories path.parent with ⟨e | u, made⟩
  · rw [hmake] at h
    obtain ⟨rfl⟩ := Except.error.inj (Prod.mk.inj h).1
    cases he : e.code <;> simp [Fault.isTransient, Fault.kind, Kind.isTransient, he] at ht
  · rw [hmake] at h
    have hmade : (files.makeDirectories path.parent).2.isDirectory path.parent :=
      FileSystem.isDirectory_makeDirectories (by rw [hmake])
    rw [hmake] at hmade
    refine ⟨rfl, ?_⟩
    rw [← show _ = left from congrArg Prod.snd h]
    exact (keepsDirectories_taken made reply).isDirectory hmade

end

namespace Fetcher

def opened (fetcher : Fetcher) : Fetcher :=
  { fetcher with isOpen := fetcher.isOpen || !fetcher.injected }

/-- What is recorded when a fetcher sees to it that it has a session. -/
def opening (fetcher : Fetcher) : List Event :=
  if fetcher.injected || fetcher.isOpen then [] else [.httpOpened]

@[simp] theorem opened_opened (fetcher : Fetcher) : fetcher.opened.opened = fetcher.opened := by
  simp [opened]

@[simp] theorem opening_opened (fetcher : Fetcher) : fetcher.opened.opening = [] := by
  obtain ⟨base, channel, injected, isOpen⟩ := fetcher
  cases injected <;> simp [opened, opening]

variable {s : Fetcher × World} {url : String} {path : Path} {response : Response}
  {reply : Reply} {loc : Location} {made : FileSystem} {left : World}

-- ---------------------------------------------------------------------------
-- Parts of an attempt
-- ---------------------------------------------------------------------------

theorem run_ensureSession (s : Fetcher × World) :
    ensureSession.run s =
      (.ok (), s.1.opened, { s.2 with events := s.1.opening ++ s.2.events }) := by
  obtain ⟨⟨base, channel, injected, isOpen⟩, world⟩ := s
  cases injected <;> cases isOpen <;> rfl

/-- The next reply depends on the replies only, and taking it changes nothing else. -/
theorem nextReply_eq {world : World} {channel : Channel}
    (hnext : world.nextReply channel = (reply, left)) (world' : World)
    (h : world'.replies = world.replies) :
    world'.nextReply channel = (reply, { world' with replies := left.replies }) := by
  unfold World.nextReply at hnext ⊢
  rw [h]
  cases hr : world.replies channel <;> simp only [hr, Prod.mk.injEq] at hnext ⊢
  · obtain ⟨rfl, rfl⟩ := hnext
    simp [← h]
  · obtain ⟨rfl, rfl⟩ := hnext
    simp

theorem run_request (url : String) (h : s.2.nextReply s.1.channel = (reply, left)) :
    (request url).run s = (reply.read url, s.1,
      { s.2.record (.httpRequested url sixtySeconds) with replies := left.replies }) := by
  have hnext := nextReply_eq h (s.2.record (.httpRequested url sixtySeconds)) rfl
  unfold request
  rw [run_bind, run_own]
  dsimp only
  rw [run_bind, run_emit]
  dsimp only
  rw [run_bind, run_takeReply, hnext]
  cases reply with
  | failed fault => rfl
  | answered response =>
    dsimp only [Reply.read]
    cases response.statusFault? url <;> rfl

theorem run_receive (response : Response) (h : s.2.files.create path = .ok (loc, made)) :
    (receive response path).run s =
      (match response.failure with
        | some fault => .error fault
        | none => .ok (), s.1,
        (s.2.record (.httpStreamed chunkSize)).withFiles
          (s.2.files.set loc (.file response.chunks.flatten))) := by
  obtain ⟨-, hn, rfl⟩ := FileSystem.create_eq_ok h
  have hcreate : (createFile path).run s =
      (.ok loc, s.1, s.2.withFiles (s.2.files.set loc (.file []))) :=
    run_createFile_ok.mpr ⟨_, h, rfl⟩
  have hwritten := FileSystem.appendAll_set s.2.files (FileSystem.ne_nil_of_node? hn) []
    response.chunks
  rw [List.nil_append] at hwritten
  unfold receive
  rw [run_bind_of_ok hcreate, run_bind, run_emit]
  dsimp only
  rw [run_bind, run_writeChunks]
  dsimp only [World.withFiles, World.record]
  rw [hwritten]
  cases response.failure <;> rfl

def accept (response : Response) (url : String) (path : Path) : Act Fetcher Nat := do
  match ← (receive response path).attempt with
  | .ok () => checkLength response url path
  | .error fault =>
    Act.unlink path
    Act.fail fault

theorem download_eq (url : String) (path : Path) : download url path = (do
    ensureSession
    Act.makeDirectories path.parent
    let response ← request url
    accept response url path) := rfl

theorem run_accept (response : Response) (url : String)
    (h : s.2.files.create path = .ok (loc, made)) :
    (accept response url path).run s = ((response.stored url loc s.2.files).1, s.1,
      (s.2.record (.httpStreamed chunkSize)).withFiles (response.stored url loc s.2.files).2) := by
  obtain ⟨hl, hn, -⟩ := FileSystem.create_eq_ok h
  have hunlink := FileSystem.unlink_set hl hn response.chunks.flatten
  unfold accept Response.stored
  rw [run_bind, run_attempt, run_receive response h]
  dsimp only
  cases response.failure with
  | some fault =>
    dsimp only
    rw [run_bind, run_unlink]
    simp only [World.withFiles, hunlink, run_fail]
  | none =>
    dsimp only
    unfold checkLength
    dsimp only
    cases response.declaredLength? with
    | none => rfl
    | some text =>
      dsimp only
      rw [run_bind, run_ofExcept]
      cases Text.readInteger text with
      | error e => rfl
      | ok declared =>
        dsimp only [mapError_ok]
        by_cases hlength : declared = response.chunks.flatten.length
        · rw [if_pos hlength, if_pos hlength]
          rfl
        · rw [if_neg hlength, if_neg hlength, run_bind, run_unlink]
          simp only [World.withFiles, hunlink, run_fail]

theorem run_accept_of_error {e : FileError} (response : Response) (url : String)
    (h : s.2.files.create path = .error e) :
    (accept response url path).run s = (.error (.file e), s) := by
  have hreceive : (receive response path).run s = (.error (.file e), s) := by
    unfold receive
    rw [run_bind, createFile, run_onFiles, h]
  unfold accept
  rw [run_bind, run_attempt, hreceive]
  dsimp only
  rw [run_bind, run_unlink]
  rcases FileSystem.unlink_of_create_error h with hunlink | ⟨-, hunlink⟩
  · rw [hunlink]
  · rw [hunlink]
    rfl

-- ---------------------------------------------------------------------------
-- Attempts
-- ---------------------------------------------------------------------------

theorem exchange_eq {before after : World} {new : List Event}
    (h : after.events = new ++ before.events) :
    before.exchange after = new.reverse.filter fun event => event ≠ .httpStreamed chunkSize := by
  rw [World.exchange, World.since_eq h]

/-- A request is recorded after the session is opened; what arrives is left out. -/
theorem exchange_requested {before after : World} (fetcher : Fetcher) (arrived : List Event)
    (h : after.events = (arrived ++ [.httpRequested url sixtySeconds] ++ fetcher.opening) ++
      before.events) (harrived : ∀ event ∈ arrived, event = .httpStreamed chunkSize) :
    before.exchange after = fetcher.opening ++ [.httpRequested url sixtySeconds] := by
  rw [exchange_eq h]
  unfold opening
  split <;> simpa using harrived

/-- An attempt comes to what its reply and the files decide. If the directory can be made it
takes one reply, and a request is all that is recorded but for the arrival of the body. -/
theorem run_download (url : String) (path : Path)
    (h : s.2.nextReply s.1.channel = (reply, left)) :
    ∃ t, (download url path).run s =
        ((reply.attempted url path s.2.files).1, s.1.opened, t) ∧
      t.files = (reply.attempted url path s.2.files).2 ∧
      ((s.2.files.makeDirectories path.parent).1 = .ok () → t.replies = left.replies ∧
        s.2.exchange t = s.1.opening ++ [.httpRequested url sixtySeconds]) := by
  unfold Reply.attempted
  rw [download_eq, run_bind_of_ok (run_ensureSession s), run_bind, run_makeDirectories]
  dsimp only
  rcases hmake : s.2.files.makeDirectories path.parent with ⟨e | u, made⟩
  · exact ⟨_, rfl, rfl, by simp⟩
  · dsimp only [mapError_ok]
    have hrequest := run_request url (s := (s.1.opened,
      World.withFiles { s.2 with events := s.1.opening ++ s.2.events } made)) (nextReply_eq h _ rfl)
    rw [run_bind, hrequest]
    dsimp only
    unfold Reply.taken
    cases reply.read url with
    | error fault =>
      refine ⟨_, rfl, rfl, fun _ => ⟨rfl, ?_⟩⟩
      exact exchange_requested s.1 [] rfl (by simp)
    | ok response =>
      dsimp only
      cases hcreate : made.create path with
      | error e =>
        rw [run_accept_of_error response url hcreate]
        refine ⟨_, rfl, rfl, fun _ => ⟨rfl, ?_⟩⟩
        exact exchange_requested s.1 [] rfl (by simp)
      | ok created =>
        obtain ⟨loc, written⟩ := created
        rw [run_accept response url hcreate]
        refine ⟨_, rfl, rfl, fun _ => ⟨rfl, ?_⟩⟩
        exact exchange_requested s.1 [.httpStreamed chunkSize] rfl (by simp)

-- ---------------------------------------------------------------------------
-- Several attempts
-- ---------------------------------------------------------------------------

def timeline (url : String) (waits : List Nat) : List Event :=
  .httpRequested url sixtySeconds ::
    waits.flatMap fun wait => [.slept wait, .httpRequested url sixtySeconds]

theorem exchange_slept (world : World) (wait : Nat) :
    world.exchange (world.record (.slept wait)) = [.slept wait] := by
  rw [World.exchange, World.since_record List.suffix_rfl, World.since_self]
  rfl

theorem suffix_download (url : String) (path : Path) (s : Fetcher × World) :
    s.2.events <:+ ((download url path).run s).2.2.events :=
  (keeps_download (World.admits_onward path) url s).2.events.suffix

theorem suffix_withRetries (url : String) (path : Path) (waits : List Nat) (s : Fetcher × World) :
    s.2.events <:+ ((withRetries (download url path) waits).run s).2.2.events :=
  (keeps_withRetries (World.admits_onward path)
    (keeps_download (World.admits_onward path) url) waits s).2.events.suffix

section

variable {α : Type} {act : Act Fetcher α} {t : Fetcher × World} {fault : Fault}

theorem run_withRetries_of_final
    (h : ∀ fault, (act.run s).1 = .error fault → fault.isTransient = false) (waits : List Nat) :
    (withRetries act waits).run s = act.run s := by
  cases waits with
  | nil => rfl
  | cons wait later =>
    unfold withRetries
    rw [run_bind, run_attempt]
    rcases hrun : act.run s with ⟨fault | a, t⟩
    · simp [h fault (by rw [hrun])]
    · rfl

theorem run_withRetries_of_transient (h : act.run s = (.error fault, t)) (ht : fault.isTransient)
    (wait : Nat) (later : List Nat) : (withRetries act (wait :: later)).run s =
      (withRetries act later).run (t.1, t.2.record (.slept wait)) := by
  rw [withRetries, run_bind, run_attempt, h]
  simp only [ht, if_true]
  rfl

end

theorem run_withRetries (url : String) (path : Path) {waits : List Nat} {rest : List Reply}
    (h : s.2.upcoming s.1.channel (waits.length + 1) = reply :: rest) :
    ∃ t, (withRetries (download url path) waits).run s =
        (((lastAttempt url path reply rest s.2.files).result url path).1, s.1.opened, t) ∧
      t.files = ((lastAttempt url path reply rest s.2.files).result url path).2 ∧
      ((s.2.files.makeDirectories path.parent).1 = .ok () → s.2.exchange t = s.1.opening ++
        (timeline url waits).take (2 * (lastAttempt url path reply rest s.2.files).earlier + 1)) := by
  induction waits generalizing s reply rest with
  | nil =>
    rw [World.upcoming_succ] at h
    obtain ⟨rfl, rfl⟩ := List.cons.inj h
    obtain ⟨t, hrun, hfiles, hcourse⟩ := run_download url path (s := s) rfl
    exact ⟨t, hrun, hfiles, fun hmake => (hcourse hmake).2⟩
  | cons wait later ih =>
    rcases hnext : s.2.nextReply s.1.channel with ⟨found, after⟩
    rw [World.upcoming_succ, hnext] at h
    obtain ⟨rfl, rfl⟩ := List.cons.inj h
    obtain ⟨t, hrun, hfiles, hcourse⟩ := run_download url path hnext
    by_cases hfinal : ∀ fault, (found.attempted url path s.2.files).1 = .error fault →
        fault.isTransient = false
    · rw [run_withRetries_of_final (by simpa only [hrun] using hfinal), lastAttempt_of_final hfinal]
      refine ⟨t, hrun, hfiles, fun hmake => ?_⟩
      rw [(hcourse hmake).2]
      simp [timeline]
    · obtain ⟨fault, left, hresult, ht⟩ : ∃ fault left,
          found.attempted url path s.2.files = (.error fault, left) ∧ fault.isTransient := by
        rcases hresult : found.attempted url path s.2.files with ⟨fault | n, left⟩
        · exact ⟨fault, left, rfl, by simpa [hresult] using hfinal⟩
        · simp [hresult] at hfinal
      obtain ⟨hmake, hdirectory⟩ := directory_of_transient hresult ht
      obtain ⟨hreplies, hexchange⟩ := hcourse hmake
      rw [hresult] at hrun hfiles
      -- The next attempt finds what this one has left.
      let next := t.record (.slept wait)
      have hupcoming : next.upcoming s.1.opened.channel (later.length + 1) =
          (after.nextReply s.1.channel).1 ::
            (after.nextReply s.1.channel).2.upcoming s.1.channel later.length :=
        (World.upcoming_congr hreplies ..).trans (World.upcoming_succ ..)
      obtain ⟨u, hlater, hleft, hafter⟩ := ih (s := (s.1.opened, next)) hupcoming
      have hfirst : s.2.events <:+ t.events := by
        have hsuffix := suffix_download url path s
        rwa [hrun] at hsuffix
      have hslept : t.events <:+ next.events := List.suffix_cons _ _
      have hthen : next.events <:+ u.events := by
        have hsuffix := suffix_withRetries url path later (s.1.opened, next)
        rwa [hlater] at hsuffix
      have hleft' : next.files = left := hfiles
      have hmake' : (left.makeDirectories path.parent).1 = .ok () := by
        rw [FileSystem.makeDirectories_of_isDirectory hdirectory]
      simp only [opened_opened, opening_opened, hleft'] at hlater hleft hafter
      rw [run_withRetries_of_transient hrun ht, List.length_cons, World.upcoming_succ,
        lastAttempt_of_transient hresult ht]
      refine ⟨u, hlater, hleft, fun _ => ?_⟩
      rw [World.exchange_trans (hfirst.trans hslept) hthen, World.exchange_trans hfirst hslept,
        hexchange, exchange_slept, hafter hmake']
      simp [timeline, Attempt.later, Nat.mul_add]

-- ---------------------------------------------------------------------------
-- A whole fetch
-- ---------------------------------------------------------------------------

/-- A fetch with other waits between its attempts; with none it is a single attempt. -/
def fetchWith (waits : List Nat) (path : Path) : Act Fetcher (Outcome Path) := do
  let fetcher ← Act.own
  let url := fetcher.describe path.name
  match ← (withRetries (download url path) waits).attempt with
  | .ok _ => return .success path
  | .error fault =>
    if fault.isOS then
      Act.unlink path
      return .absent s!"http error: {fault.message} on {url}" (some fault)
    else Act.fail fault

theorem fetch_eq (path : Path) : fetch path = fetchWith waits path := rfl

theorem run_fetchWith (waits : List Nat) (path : Path) {rest : List Reply}
    (hurl : s.1.describe path.name = url)
    (h : s.2.upcoming s.1.channel (waits.length + 1) = reply :: rest) :
    ∃ t, (fetchWith waits path).run s =
        ((concluded url path ((lastAttempt url path reply rest s.2.files).result url path)).1,
          s.1.opened, t) ∧
      t.files =
        (concluded url path ((lastAttempt url path reply rest s.2.files).result url path)).2 ∧
      ((s.2.files.makeDirectories path.parent).1 = .ok () → s.2.exchange t = s.1.opening ++
        (timeline url waits).take (2 * (lastAttempt url path reply rest s.2.files).earlier + 1)) := by
  obtain ⟨t, hrun, hfiles, hcourse⟩ := run_withRetries url path h
  unfold fetchWith
  rw [run_bind, run_own]
  dsimp only
  rw [run_bind, run_attempt, hurl, hrun]
  generalize (lastAttempt url path reply rest s.2.files).result url path = result at hfiles
  obtain ⟨fault | n, left⟩ := result
  · dsimp only [concluded] at hfiles ⊢
    by_cases hos : fault.isOS
    · rw [if_pos hos, if_pos hos, run_bind, run_unlink, hfiles]
      cases left.unlink path with
      | ok gone => exact ⟨_, rfl, rfl, hcourse⟩
      | error e => exact ⟨t, rfl, hfiles, hcourse⟩
    · rw [if_neg hos, if_neg hos]
      exact ⟨t, rfl, hfiles, hcourse⟩
  · exact ⟨t, rfl, hfiles, hcourse⟩

end Fetcher

end Http

end TerrainTiles
