import TerrainTiles.Proofs.Descriptor.Call

/-!
# No partial archive

With a real fetcher, a call leaves at the archive's path what was there before,
no file, or a content that came in whole while the call was running
(`undamaged_call`), whatever the call's result and however it was reached
(`undamaged_afterAll`).
-/

namespace TerrainTiles.Descriptor

open Act

/-- Between two moments the archive was left alone, or removed, or replaced by
what the fetcher was delivered whole. -/
inductive Undamaged (path : Path) (s t : Descriptor × World) : Prop where
  | same (h : t.2.files.content? path = s.2.files.content? path)
  | gone (h : t.2.files.content? path = none)
  | replaced {fetcher fetcher' : Fetcher} {content : Bytes}
      (before : s.1.fetcher = some fetcher) (after : t.1.fetcher = some fetcher')
      (delivered : Fetcher.Delivered path content (fetcher, s.2) (fetcher', t.2))
      (h : t.2.files.content? path = some content)

variable {d : Descriptor} {world : World} {path : Path}

theorem Undamaged.reading {s t u : Descriptor × World} (h : Undamaged path s t)
    (hf : u.1.fetcher = t.1.fetcher) (hr : World.Reading t.2 u.2) : Undamaged path s u := by
  cases h with
  | same h => exact .same (hr.files ▸ h)
  | gone h => exact .gone (hr.files ▸ h)
  | replaced before after delivered h =>
    obtain ⟨new, hnew, -⟩ := hr.events
    exact .replaced before (hf.trans after)
      (delivered.mono ⟨[], rfl⟩ ⟨new, hnew⟩ rfl hr.replies) (hr.files ▸ h)

/-- A fetch that answers leaves a whole archive or none; one that fails is
cleaned up after, and where that is refused there is no file either. -/
theorem undamaged_fetchRemote (hreal : ∀ f, d.fetcher = some f → f.isReal)
    (ha : d.copy.archive = .ok path) (world : World) :
    Undamaged path (d, world) (fetchRemote.run (d, world)).2 := by
  cases hf : d.fetcher with
  | none =>
    rw [run_fetchRemote_none hf]
    exact .same rfl
  | some fetcher =>
    rw [run_fetchRemote hf ha]
    have hreal : (fetcher, world.record (.fetchBegun path)).1.isReal := hreal fetcher hf
    cases hasked : asked fetcher path world with
    | mk answer t =>
      cases answer with
      | error fault =>
        -- Whatever the fetcher left, no file outlives the removal, not even a refused one.
        dsimp only
        cases hunlink : t.2.files.unlink path with
        | ok files => exact .gone (FileSystem.content?_unlink hunlink)
        | error e => exact .gone (FileSystem.content?_of_unlink_error hunlink)
      | ok outcome =>
        cases outcome with
        | success value =>
          obtain ⟨-, content, hdelivered, hcontent⟩ := Fetcher.fetch_success hreal hasked
          have hdelivered : Fetcher.Delivered path content (fetcher, world) (t.1, t.2) :=
            hdelivered.mono ⟨[.fetchBegun path], rfl⟩ ⟨[], rfl⟩ rfl rfl
          exact .replaced hf rfl hdelivered hcontent
        | _ =>
          rcases Fetcher.fetch_unsuccessful hreal hasked rfl with hfiles | hnone
          · exact .same (congrArg (·.content? path) hfiles)
          · exact .gone hnone

theorem undamaged_acquireRemote (hreal : ∀ f, d.fetcher = some f → f.isReal)
    (ha : d.copy.archive = .ok path) (world : World) :
    Undamaged path (d, world) (acquireRemote.run (d, world)).2 := by
  have h := undamaged_fetchRemote hreal ha world
  rw [run_acquireRemote]
  revert h
  rcases fetchRemote.run (d, world) with ⟨fault | outcome, d', left⟩
  · exact id
  · intro h
    have hset : ∀ d'', d''.fetcher = d'.fetcher → Undamaged path (d, world) (d'', left) :=
      fun d'' hf => h.reading hf (Std.Refl.refl _)
    cases outcome with
    | success value =>
      obtain ⟨_, _, _, hrun, hreading, hfinished⟩ :=
        run_finish { d' with state := .onDisk } (some value) left
      dsimp only
      rw [hrun]
      exact (hset { d' with state := .onDisk } rfl).reading hfinished.alike.2.1 hreading
    | _ => exact hset _ rfl

theorem undamaged_getTile (hreal : ∀ f, d.fetcher = some f → f.isReal)
    (ha : d.copy.archive = .ok path) (world : World) :
    Undamaged path (d, world) (getTile.run (d, world)).2 := by
  rw [run_getTile]
  cases d.settled? with
  | some answer => exact .same rfl
  | none =>
    cases d.probed world.files with
    | error fault => exact .same rfl
    | ok state =>
      dsimp only
      split
      · split
        · have h := undamaged_acquireRemote (d := { d with state }) hreal ha world
          cases h with
          | same h => exact .same h
          | gone h => exact .gone h
          | replaced before after delivered h => exact .replaced before after delivered h
        · exact .same rfl
      · obtain ⟨_, _, _, hrun, hreading, -⟩ := run_finish { d with state } none world
        rw [hrun]
        exact .same (congrArg (·.content? path) hreading.files)

theorem undamaged_call {s : Descriptor × World} (hreal : ∀ f, s.1.fetcher = some f → f.isReal)
    (ha : s.1.copy.archive = .ok path) (call : Call) : Undamaged path s (call.after s) := by
  obtain ⟨d, world⟩ := s
  cases call with
  | getTile => exact undamaged_getTile hreal ha world
  | dispose => exact .same (congrArg (·.content? path) (files_dispose d world))
  | disableRemote => exact .same rfl

/-- After any calls, each further call leaves no partial archive. -/
theorem undamaged_afterAll {s : Descriptor × World}
    (hreal : ∀ f, s.1.fetcher = some f → f.isReal) (ha : s.1.copy.archive = .ok path)
    (calls : List Call) (call : Call) :
    Undamaged path (afterAll calls s) (call.after (afterAll calls s)) := by
  have halike := alike_afterAll calls s
  refine undamaged_call (halike.lasting Fetcher.lasting_isReal hreal) ?_ call
  rw [halike.copy]
  exact ha

-- ---------------------------------------------------------------------------
-- Cut off
-- ---------------------------------------------------------------------------

def oldArchive : Path := ⟨.root, ["dem", "t.zip"]⟩

def outdated (fetcher : Fetcher) : Descriptor where
  copy := { plain := ⟨.root, ["dem", "t.tif"]⟩, template := "t.zip" }
  fetcher := some fetcher

def cutShort : Http.Response where
  headers := [("Content-Length", "3")]
  chunks := [[1], [2]]

def cutOffHttp : Descriptor × World :=
  (outdated (.http { base := "http://host", channel := 0 }),
   { files := ⟨[(["dem"], .directory), (["dem", "t.zip"], .file [7])]⟩
     decoder := .scripted [] (.ok none)
     replies := fun _ => [.answered cutShort] })

def cutOffFtp : Descriptor × World :=
  (outdated (.ftp { host := "host", directory := "/d", channel := 0 }),
   { cutOffHttp.2 with
     replies := fun _ => []
     servers := fun _ => [{
       catalogue := { entries := [("t.zip", [("type", "file"), ("size", "3")])] }
       files := fun _ => [("/d/t.zip", {
         chunks := [[1], [2]], failure := some (.reported { kind := .connectionReset }) })] }] })

def Discards (received : Event) (s t : Descriptor × World) : Prop :=
  s.1.state = .localError ∧ s.2.files.content? oldArchive = some [7] ∧
    received ∉ s.2.events ∧ received ∈ t.2.events ∧ t.2.files.content? oldArchive = none

instance (received : Event) (s t : Descriptor × World) : Decidable (Discards received s t) :=
  inferInstanceAs (Decidable (_ ∧ _))

/-- The first call cannot read the old archive, so the second one fetches a new one. That
ends before its declared length, or the connection is lost; what has come of it is written
in place of the old archive and removed. -/
theorem undamaged_cutOff :
    (let before := afterAll [.getTile] cutOffHttp
      let after := Call.getTile.after before
      Discards (.httpStreamed Http.chunkSize) before after ∧ Undamaged oldArchive before after) ∧
    (let before := afterAll [.getTile] cutOffFtp
      let after := Call.getTile.after before
      Discards (.ftpRetrieved 0 "/d/t.zip" Ftp.blockSize) before after ∧
        Undamaged oldArchive before after) ∧
    ((Http.Fetcher.receive cutShort oldArchive).run
      ({ base := "http://host", channel := 0 }, cutOffHttp.2)).2.2.files.content? oldArchive =
        some [1, 2] := by
  refine ⟨⟨by decide +kernel, ?_⟩, ⟨by decide +kernel, ?_⟩, by decide +kernel⟩
  · exact undamaged_afterAll (s := cutOffHttp) (by rintro f ⟨⟩; rfl) rfl [.getTile] .getTile
  · exact undamaged_afterAll (s := cutOffFtp) (by rintro f ⟨⟩; rfl) rfl [.getTile] .getTile

end TerrainTiles.Descriptor
