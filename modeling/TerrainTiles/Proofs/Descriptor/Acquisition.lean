import TerrainTiles.Descriptor.Acquire
import TerrainTiles.Proofs.Fetcher.Delivery

/-!
# How an acquisition runs

One equation or one spec for each step: the probe (`run_probe`), the fetch
(`run_fetchRemote`), what is decoded (`chosen`, `run_decodeFile`) and what comes
of it (`run_finish`). `run_getTile` puts them together; the theorems about
`getTile` start from it.
-/

namespace TerrainTiles

open Act

namespace Descriptor

variable {d d' : Descriptor} {world world' : World} {fetcher : Fetcher} {path : Path}
  {preferred : Option Path} {result : Except Fault (Option Loan)}

-- ---------------------------------------------------------------------------
-- The probe
-- ---------------------------------------------------------------------------

def probed (d : Descriptor) (files : FileSystem) : Except Fault State :=
  if d.state = .unknown then
    (d.copy.isPresent files).map fun present => if present then .onDisk else .remote
  else .ok d.state

theorem run_probe (d : Descriptor) (world : World) :
    probe.run (d, world) = match d.probed world.files with
      | .ok state => (.ok (), { d with state }, world)
      | .error fault => (.error fault, d, world) := by
  unfold probe probed
  rw [run_bind, run_own]
  dsimp only
  split
  · rw [run_bind, run_files]
    dsimp only
    rw [run_bind, run_ofExcept]
    cases d.copy.isPresent world.files <;> rfl
  · rfl

-- ---------------------------------------------------------------------------
-- The fetch
-- ---------------------------------------------------------------------------

def asked (fetcher : Fetcher) (path : Path) (world : World) :
    Except Fault (Outcome Path) × (Fetcher × World) :=
  (Fetcher.fetch path).run (fetcher, world.record (.fetchBegun path))

theorem run_requestArchive (hf : d.fetcher = some fetcher) (world : World) :
    (requestArchive fetcher).run (d, world) = match d.copy.archive with
      | .error fault => (.error fault, d, world)
      | .ok path => ((asked fetcher path world).1,
          { d with fetcher := some (asked fetcher path world).2.1 },
          (asked fetcher path world).2.2) := by
  unfold requestArchive onFetcher
  rw [run_bind, run_own]
  dsimp only
  rw [run_bind, run_ofExcept]
  cases d.copy.archive with
  | error fault => rfl
  | ok path =>
    dsimp only
    rw [run_bind, run_emit]
    dsimp only
    rw [run_focus]
    simp only [hf, Option.getD_some]
    rfl

theorem run_removeArchive (d : Descriptor) (world : World) :
    removeArchive.run (d, world) = match d.copy.removeArchive world.files with
      | .ok files => (.ok (), d, world.withFiles files)
      | .error fault => (.error fault, d, world) := by
  unfold removeArchive
  rw [run_bind, run_own]
  dsimp only
  rw [run_bind, run_files]
  dsimp only
  rw [run_bind, run_ofExcept]
  cases d.copy.removeArchive world.files <;> rfl

theorem removeArchive_of_archive (ha : d.copy.archive = .ok path) (files : FileSystem) :
    d.copy.removeArchive files = (files.unlink path).mapError .file := by
  unfold LocalCopy.removeArchive
  rw [ha]
  rfl

theorem run_fetchRemote_none (hf : d.fetcher = none) (world : World) :
    fetchRemote.run (d, world) =
      (.ok (.recoverable s!"No remote configured for {d.tileName}"), d, world) := by
  unfold fetchRemote
  rw [run_bind, run_own]
  simp only [hf, run_pure]

theorem run_fetchRemote_nameless (hf : d.fetcher = some fetcher) {fault : Fault}
    (ha : d.copy.archive = .error fault) (world : World) :
    fetchRemote.run (d, world) = (.error fault, d, world) := by
  unfold fetchRemote
  rw [run_bind, run_own]
  simp only [hf]
  rw [run_bind, run_attempt, run_requestArchive hf, ha]
  dsimp only
  rw [run_bind, run_removeArchive]
  unfold LocalCopy.removeArchive
  rw [ha]
  rfl

/-- What the fetcher answers is passed on; if it fails, the archive goes, and if
that fails too, it is that fault that comes through. -/
theorem run_fetchRemote (hf : d.fetcher = some fetcher) (ha : d.copy.archive = .ok path)
    (world : World) :
    fetchRemote.run (d, world) =
      let d' := { d with fetcher := some (asked fetcher path world).2.1 }
      let left := (asked fetcher path world).2.2
      match (asked fetcher path world).1 with
      | .ok outcome => (.ok outcome, d', left)
      | .error fault => match left.files.unlink path with
        | .ok files => (.ok (.recoverable fault.message (some fault)), d', left.withFiles files)
        | .error e => (.error (.file e), d', left) := by
  unfold fetchRemote
  rw [run_bind, run_own]
  simp only [hf]
  rw [run_bind, run_attempt, run_requestArchive hf, ha]
  dsimp only
  cases (asked fetcher path world).1 with
  | ok outcome => rfl
  | error fault =>
    dsimp only
    rw [run_bind, run_removeArchive, removeArchive_of_archive ha]
    cases (asked fetcher path world).2.2.files.unlink path <;> rfl

-- ---------------------------------------------------------------------------
-- Decoding
-- ---------------------------------------------------------------------------

def chosen (d : Descriptor) (preferred : Option Path) (files : FileSystem) :
    Except Fault (Option Path) :=
  match preferred.filter files.isFile with
  | some path => .ok (some path)
  | none => d.copy.locate files

theorem run_chooseFile (d : Descriptor) (preferred : Option Path) (world : World) :
    (chooseFile preferred).run (d, world) = (d.chosen preferred world.files, d, world) := by
  unfold chooseFile chosen
  rw [run_bind, run_own]
  dsimp only
  rw [run_bind, run_files]
  dsimp only
  cases preferred.filter world.files.isFile with
  | some path => rfl
  | none => exact run_ofExcept _ _

theorem locate_some {copy : LocalCopy} {files : FileSystem}
    (h : copy.locate files = .ok (some path)) :
    files.isFile path ∧ (path = copy.plain ∨
      files.isFile copy.plain = false ∧ copy.archive = .ok path) := by
  unfold LocalCopy.locate LocalCopy.plainExists at h
  split at h
  · next hp => cases h; exact ⟨hp, .inl rfl⟩
  · next hp =>
    cases ha : copy.archive with
    | error fault => simp [ha, bind, Except.bind] at h
    | ok archive =>
      simp only [ha, bind, Except.bind] at h
      split at h
      · next hfile => cases h; exact ⟨hfile, .inr ⟨by simpa using hp, rfl⟩⟩
      · cases h

theorem locate_error {copy : LocalCopy} {files : FileSystem} {fault : Fault} :
    copy.locate files = .error fault ↔
      files.isFile copy.plain = false ∧ copy.archive = .error fault := by
  unfold LocalCopy.locate LocalCopy.plainExists
  cases files.isFile copy.plain with
  | true => simp [pure, Except.pure]
  | false =>
    cases copy.archive with
    | error => simp [bind, Except.bind]
    | ok archive => simp [bind, Except.bind, pure, Except.pure]

def decodedAt (f : Reader) (files : FileSystem) (path : Path) (tile : String) :
    Except Fault (Option Tile) :=
  if Archive.hasArchiveSuffix path then
    Archive.readTile files path tile f.unpacker >>= fun data => f data tile
  else
    match files.content? path with
    | some data => f data tile
    | none => .error .unreadableRaster

/-- Decoding leaves the descriptor and the files alone, and a deterministic
decoder's answer depends on nothing else. -/
theorem run_decodeFile (d : Descriptor) (path : Path) (world : World) :
    ∃ answer left, (decodeFile path).run (d, world) = (answer, d, left) ∧
      World.Reading world left ∧
      ∀ f, world.decoder = .deterministic f → answer = decodedAt f world.files path d.tileName := by
  -- Both ways of decoding record an event and ask the decoder; they differ in the data.
  have hdecode : ∀ (data : Option Bytes) (event : Event), event.isFetch = false →
      ∃ answer left, (Act.emit event >>= fun _ => Act.decode data d.tileName).run (d, world) =
          (answer, d, left) ∧ World.Reading world left ∧
        ∀ f, world.decoder = .deterministic f →
          answer = match data with
            | some data => f data d.tileName
            | none => .error .unreadableRaster := by
    intro data event he
    refine ⟨_, _, rfl, ?_, ?_⟩
    · refine ⟨rfl, rfl, ⟨[event], rfl, by simp [he]⟩, ?_⟩
      intro f hf
      cases data <;> simp [World.record, hf]
    · intro f hf
      cases data <;> simp [World.record, hf]
  unfold decodeFile decodedAt
  rw [run_bind, run_own]
  dsimp only
  rw [run_bind, run_files]
  dsimp only
  rw [run_bind, run_unpacker]
  dsimp only
  split
  · have hreads : ∀ f, world.decoder = .deterministic f →
        Archive.readTile world.files path d.tileName f.unpacker =
          Archive.readTile world.files path d.tileName world.decoder.unpacker := by
      intro f hf
      rw [hf, Decoder.unpacker]
    rw [run_bind, run_ofExcept]
    cases hread : Archive.readTile world.files path d.tileName world.decoder.unpacker with
    | error fault =>
      exact ⟨_, _, rfl, Std.Refl.refl _, fun f hf => by rw [hreads f hf, hread]; rfl⟩
    | ok data =>
      obtain ⟨answer, left, hrun, hreading, hanswer⟩ :=
        hdecode (some data) (.decodedBytes data d.tileName) rfl
      exact ⟨answer, left, hrun, hreading, fun f hf => by rw [hreads f hf, hread]; exact hanswer f hf⟩
  · rw [FileSystem.toOption_read]
    exact hdecode _ _ rfl

/-- How the last part of an acquisition ends: nothing to decode can be named, no
tile comes of it, or the decoded one is cached and lent. -/
inductive Finished (d : Descriptor) (preferred : Option Path) (world : World) :
    Except Fault (Option Loan) → Descriptor → Prop where
  | nameless {fault : Fault} (hchosen : d.chosen preferred world.files = .error fault) :
      Finished d preferred world (.error fault) d
  | empty {found : Option Path} {state : State} {message : String}
      (hchosen : d.chosen preferred world.files = .ok found)
      (hstate : state = .absent ∨ state = .localError)
      (hdecoded : ∀ f path tile, world.decoder = .deterministic f → found = some path →
        decodedAt f world.files path d.tileName ≠ .ok (some tile)) :
      Finished d preferred world (.ok none) { d with cached := none, state, message }
  | lent {path : Path} {tile : Tile} (hchosen : d.chosen preferred world.files = .ok (some path))
      (hdecoded : ∀ f, world.decoder = .deterministic f →
        decodedAt f world.files path d.tileName = .ok (some tile)) :
      Finished d preferred world (.ok (some ⟨tile, d.decoded⟩)) { d with
        cached := some ⟨tile, d.decoded⟩, decoded := d.decoded + 1, state := .ready, message := "" }

theorem run_finish (d : Descriptor) (preferred : Option Path) (world : World) :
    ∃ result d' left, (finish preferred).run (d, world) = (result, d', left) ∧
      World.Reading world left ∧ Finished d preferred world result d' := by
  unfold finish decodeLocal
  rw [run_bind, run_bind, run_own]
  dsimp only
  rw [run_bind, run_chooseFile]
  cases hchosen : d.chosen preferred world.files with
  | error fault => exact ⟨_, _, _, rfl, Std.Refl.refl _, .nameless hchosen⟩
  | ok found =>
    cases found with
    | none => exact ⟨_, _, _, rfl, Std.Refl.refl _, .empty hchosen (.inr rfl) (by simp)⟩
    | some path =>
      obtain ⟨answer, left, hrun, hreading, hanswer⟩ := run_decodeFile d path world
      have hempty : (∀ tile, answer ≠ .ok (some tile)) → ∀ f p tile,
          world.decoder = .deterministic f → some path = some p →
          decodedAt f world.files p d.tileName ≠ .ok (some tile) := by
        rintro hne f _ tile hf ⟨⟩
        rw [← hanswer f hf]
        exact hne tile
      dsimp only
      rw [run_bind, run_attempt, hrun]
      rcases answer with fault | _ | tile
      · exact ⟨_, _, _, rfl, hreading, .empty hchosen (.inr rfl) (hempty (by simp))⟩
      · exact ⟨_, _, _, rfl, hreading, .empty hchosen (.inl rfl) (hempty (by simp))⟩
      · exact ⟨_, _, _, rfl, hreading, .lent hchosen fun f hf => (hanswer f hf).symm⟩

theorem Finished.alike {preferred : Option Path} (h : Finished d preferred world result d') :
    d'.copy = d.copy ∧ d'.fetcher = d.fetcher ∧ d'.remoteAllowed = d.remoteAllowed := by
  cases h <;> exact ⟨rfl, rfl, rfl⟩

-- ---------------------------------------------------------------------------
-- The whole acquisition
-- ---------------------------------------------------------------------------

theorem run_acquireRemote (d : Descriptor) (world : World) :
    acquireRemote.run (d, world) = match fetchRemote.run (d, world) with
      | (.error fault, t) => (.error fault, t)
      | (.ok (.success path), d', left) =>
        (finish (some path)).run ({ d' with state := .onDisk }, left)
      | (.ok (.absent message _), d', left) =>
        (.ok none, { d' with state := .absent, message }, left)
      | (.ok (.recoverable message _), d', left) =>
        (.ok none, { d' with state := d.state, message }, left)
      | (.ok (.fatal message cause), d', left) =>
        (.error (d.unreachable cause), { d' with state := .fatal, message }, left) := by
  unfold acquireRemote
  rw [run_bind, run_own]
  dsimp only
  rw [run_bind]
  rcases fetchRemote.run (d, world) with ⟨fault | outcome, d', left⟩
  · rfl
  · cases outcome <;> rfl

theorem cached_of_settled_none (h : d.settled? = none) : d.cached = none := by
  unfold settled? at h
  split at h
  · cases h
  · assumption

theorem run_getTile (d : Descriptor) (world : World) :
    getTile.run (d, world) = match d.settled? with
      | some answer => (answer, d, world)
      | none => match d.probed world.files with
        | .error fault => (.error fault, d, world)
        | .ok state =>
          if state = .remote ∨ state = .localError then
            if d.remoteEnabled then acquireRemote.run ({ d with state }, world)
            else (.ok none, { d with state }, world)
          else (finish none).run ({ d with state }, world) := by
  unfold getTile acquireOnce
  rw [run_bind, run_own]
  dsimp only
  cases hs : d.settled? with
  | some answer => exact run_ofExcept _ _
  | none =>
    dsimp only
    rw [run_bind, run_own]
    simp only [hs]
    unfold acquire
    rw [run_bind, run_probe]
    cases d.probed world.files with
    | error fault => rfl
    | ok state =>
      dsimp only
      rw [run_bind, run_own]
      dsimp only
      split
      · have he : ({ d with state } : Descriptor).remoteEnabled = d.remoteEnabled := rfl
        rw [he]
        cases d.remoteEnabled <;> rfl
      · rfl

end Descriptor

end TerrainTiles
