import TerrainTiles.Proofs.Descriptor.Call
import TerrainTiles.Proofs.World.Work

/-!
# Histories of a descriptor

A `Step` is a call on a descriptor or a change of the files from outside, and
`afterSteps` is what a sequence of steps leaves.

`Acquired` lists everything a call of `getTile` can do to a descriptor, with the
fetches and decodes it takes (`acquired_getTile`). What holds along every
history is derived from it.
-/

namespace TerrainTiles.Descriptor

open Act

inductive Step where
  | call (call : Call)
  | outside (change : FileSystem → FileSystem)

def Step.after : Step → Descriptor × World → Descriptor × World
  | call c, s => c.after s
  | outside change, (d, world) => (d, world.withFiles (change world.files))

def afterSteps (steps : List Step) (s : Descriptor × World) : Descriptor × World :=
  steps.foldl (fun s step => step.after s) s

def fresh (copy : LocalCopy) (fetcher : Option Fetcher) : Descriptor := { copy, fetcher }

theorem afterSteps_append (before later : List Step) (s : Descriptor × World) :
    afterSteps (before ++ later) s = afterSteps later (afterSteps before s) := List.foldl_append

theorem invariant_afterSteps {P : Descriptor × World → Prop}
    (hstep : ∀ s step, P s → P (Step.after step s)) {s : Descriptor × World} (h : P s)
    (steps : List Step) : P (afterSteps steps s) := by
  induction steps generalizing s with
  | nil => exact h
  | cons step rest ih => exact ih (hstep s step h)

variable {d d' : Descriptor} {world : World} {path : Path} {preferred : Option Path}

-- ---------------------------------------------------------------------------
-- The work of a decode
-- ---------------------------------------------------------------------------

def presented (d : Descriptor) (path : Path) (files : FileSystem) (unpacker : Archive.Unpacker) :
    Except Fault (Option Bytes × Event) :=
  if Archive.hasArchiveSuffix path then
    (Archive.readTile files path d.tileName unpacker).map fun data =>
      (some data, .decodedBytes data d.tileName)
  else .ok ((files.read path).toOption, .decodedFile path d.tileName)

theorem isDecode_of_presented {data : Option Bytes} {event : Event} {files : FileSystem}
    {unpacker : Archive.Unpacker} (h : d.presented path files unpacker = .ok (data, event)) :
    event.isDecode := by
  unfold presented at h
  split at h
  · cases hread : Archive.readTile files path d.tileName unpacker with
    | error fault => simp [hread, Except.map] at h
    | ok content =>
      simp only [hread, Except.map, Except.ok.injEq, Prod.mk.injEq] at h
      rw [← h.2]
      rfl
  · cases h
    rfl

theorem run_decodeFile_presented (d : Descriptor) (path : Path) (world : World) :
    (decodeFile path).run (d, world) = match d.presented path world.files world.decoder.unpacker with
      | .error fault => (.error fault, d, world)
      | .ok (data, event) => ((world.decoder.decode data d.tileName).1, d,
          { world.record event with decoder := (world.decoder.decode data d.tileName).2 }) := by
  unfold decodeFile presented
  rw [run_bind, run_own]
  dsimp only
  rw [run_bind, run_files]
  dsimp only
  rw [run_bind, run_unpacker]
  dsimp only
  split
  · rw [run_bind, run_ofExcept]
    cases Archive.readTile world.files path d.tileName world.decoder.unpacker <;> rfl
  · rfl

theorem run_finish_eq (d : Descriptor) (preferred : Option Path) (world : World) :
    (finish preferred).run (d, world) = match d.chosen preferred world.files with
      | .error fault => (.error fault, d, world)
      | .ok none => (.ok none, { d with
          cached := none, state := .localError
          message := s!"Local copy of {d.tileName} disappeared before decoding" }, world)
      | .ok (some path) => match (decodeFile path).run (d, world) with
        | (.error fault, d, left) => (.ok none, { d with
            cached := none, state := .localError
            message := s!"Unable to read tile {path.text}: {fault.message}" }, left)
        | (.ok none, d', left) => (.ok none, { d' with
            cached := none, state := .absent
            message := s!"{d.tileName} holds no elevation product" }, left)
        | (.ok (some tile), d, left) => (.ok (some ⟨tile, d.decoded⟩), { d with
            cached := some ⟨tile, d.decoded⟩, decoded := d.decoded + 1, state := .ready
            message := "" }, left) := by
  unfold finish decodeLocal
  rw [run_bind, run_bind, run_own]
  dsimp only
  rw [run_bind, run_chooseFile]
  rcases d.chosen preferred world.files with fault | _ | path
  · rfl
  · rfl
  · dsimp only
    rw [run_bind, run_attempt]
    rcases (decodeFile path).run (d, world) with ⟨_ | _ | _, _, _⟩ <;> rfl

/-- The end of an acquisition takes one decode at most, and a tile takes one. -/
theorem work_finish (d : Descriptor) (preferred : Option Path) (world : World) :
    ∃ decode : Option Event,
      world.work ((finish preferred).run (d, world)).2.2 = decode.toList ∧
      (∀ event ∈ decode, event.isDecode) ∧
      ((∃ loan, ((finish preferred).run (d, world)).1 = .ok (some loan)) → decode.isSome) := by
  rw [run_finish_eq]
  rcases d.chosen preferred world.files with fault | _ | path
  · exact ⟨none, world.work_self, by simp, by simp⟩
  · exact ⟨none, world.work_self, by simp, by simp⟩
  · dsimp only
    rw [run_decodeFile_presented]
    cases hp : d.presented path world.files world.decoder.unpacker with
    | error fault => exact ⟨none, world.work_self, by simp, by simp⟩
    | ok given =>
      obtain ⟨data, event⟩ := given
      have hdecode : event.isDecode := isDecode_of_presented hp
      -- The record of the decode is the only one, whatever the decoder answers.
      have hwork : ∀ decoder, world.work { world.record event with decoder } = [event] :=
        fun _ => world.work_record (by simp [Event.isWork, hdecode])
      refine ⟨some event, ?_, by simpa using hdecode, fun _ => rfl⟩
      dsimp only
      rcases (world.decoder.decode data d.tileName).1 with _ | _ | _
      · exact hwork _
      · exact hwork _
      · exact hwork _

-- ---------------------------------------------------------------------------
-- The work of a fetch
-- ---------------------------------------------------------------------------

theorem work_asked (fetcher : Fetcher) (path : Path) (world : World) :
    world.work (asked fetcher path world).2.2 = [.fetchBegun path] := by
  have hfetch : World.Onward (world.record (.fetchBegun path)) (asked fetcher path world).2.2 :=
    (Fetcher.keeps_fetch path (fetcher, world.record (.fetchBegun path))).2
  rw [World.work_trans ⟨[.fetchBegun path], rfl⟩ hfetch.events.suffix, world.work_record rfl,
    hfetch.work_eq_nil, List.append_nil]

theorem work_fetchRemote_named {fetcher : Fetcher} (hf : d.fetcher = some fetcher)
    (ha : d.copy.archive = .ok path) (world : World) :
    world.work (fetchRemote.run (d, world)).2.2 = [.fetchBegun path] := by
  have hwork := work_asked fetcher path world
  rw [run_fetchRemote hf ha]
  dsimp only
  cases (asked fetcher path world).1 with
  | ok outcome => exact hwork
  | error fault =>
    dsimp only
    split
    · exact hwork
    · exact hwork

theorem work_fetchRemote (d : Descriptor) (world : World) :
    ∃ fetch : Option Event, world.work (fetchRemote.run (d, world)).2.2 = fetch.toList ∧
      ∀ event ∈ fetch, event.isFetch := by
  cases hf : d.fetcher with
  | none =>
    rw [run_fetchRemote_none hf]
    exact ⟨none, world.work_self, by simp⟩
  | some fetcher =>
    cases ha : d.copy.archive with
    | error fault =>
      rw [run_fetchRemote_nameless hf ha]
      exact ⟨none, world.work_self, by simp⟩
    | ok path =>
      exact ⟨some (.fetchBegun path), work_fetchRemote_named hf ha world, by simp [Event.isFetch]⟩

-- ---------------------------------------------------------------------------
-- Acquisitions
-- ---------------------------------------------------------------------------

/-- Everything a call of `getTile` can do, by its result, the descriptor it
leaves, and the fetches and decodes it takes. -/
inductive Acquired (d : Descriptor) (world : World) :
    Except Fault (Option Loan) → Descriptor → List Event → Prop where
  /-- The answer is known already. -/
  | settled {answer : Except Fault (Option Loan)} (h : d.settled? = some answer) :
      Acquired d world answer d []
  /-- No file can be named. -/
  | nameless {fault : Fault} (h : d.settled? = none) : Acquired d world (.error fault) d []
  /-- No archive was brought, for now or for good. -/
  | unfetched {result : Except Fault (Option Loan)} {fetcher : Option Fetcher} {state : State}
      {message : String} {fetch : Option Event} (h : d.settled? = none)
      (hstate : state = .absent ∨ state = .fatal ∨
        state = .remote ∧ (d.state = .unknown ∨ d.state = .remote) ∨
        state = .localError ∧ d.state = .localError)
      (hfetch : ∀ event ∈ fetch, event.isFetch ∧ d.remoteEnabled)
      (hresult : ∀ loan, result ≠ .ok (some loan)) :
      Acquired d world result { d with fetcher, state, message } fetch.toList
  /-- No tile came of a file that was there or was fetched. -/
  | undecoded {fetcher : Option Fetcher} {state : State} {message : String}
      {fetch decode : Option Event} (h : d.settled? = none)
      (hstate : state = .absent ∨ state = .localError)
      (hfetch : ∀ event ∈ fetch, event.isFetch ∧ d.remoteEnabled)
      (hdecode : ∀ event ∈ decode, event.isDecode) :
      Acquired d world (.ok none) { d with fetcher, cached := none, state, message }
        (fetch.toList ++ decode.toList)
  | lent {fetcher : Option Fetcher} {tile : Tile} {fetch : Option Event} {decode : Event}
      (h : d.settled? = none)
      (hfetch : ∀ event ∈ fetch, event.isFetch ∧ d.remoteEnabled)
      (hdecode : decode.isDecode)
      (htile : ∀ f, world.decoder = .deterministic f →
        ∃ data, f data d.tileName = .ok (some tile)) :
      Acquired d world (.ok (some ⟨tile, d.decoded⟩)) { d with
        fetcher, cached := some ⟨tile, d.decoded⟩, decoded := d.decoded + 1, state := .ready
        message := "" } (fetch.toList ++ [decode])

theorem exists_of_decodedAt {f : Reader} {files : FileSystem} {name : String} {tile : Tile}
    (h : decodedAt f files path name = .ok (some tile)) :
    ∃ data, f data name = .ok (some tile) := by
  unfold decodedAt at h
  split at h
  · cases hread : Archive.readTile files path name f.unpacker with
    | error fault => simp [hread, bind, Except.bind] at h
    | ok data => exact ⟨data, by simpa [hread, bind, Except.bind] using h⟩
  · split at h
    · exact ⟨_, h⟩
    · cases h

theorem acquired_finish {fetch : Option Event} {found : Option Path} (hs : d.settled? = none)
    (hfetch : ∀ event ∈ fetch, event.isFetch ∧ d.remoteEnabled) {left : World}
    (hd : left.decoder = world.decoder) (fetcher : Option Fetcher) (state : State)
    (hchosen : d.chosen preferred left.files = .ok found) :
    let ended := (finish preferred).run ({ d with fetcher, state }, left)
    Acquired d world ended.1 ended.2.1 (fetch.toList ++ left.work ended.2.2) := by
  intro ended
  obtain ⟨decode, hwork, hdecode, hsome⟩ :=
    work_finish { d with fetcher, state } preferred left
  obtain ⟨result, d', after, hrun, -, hfinished⟩ :=
    run_finish { d with fetcher, state } preferred left
  have hended : ended = (result, d', after) := hrun
  rw [show left.work ended.2.2 = decode.toList from hwork, hended]
  rw [hrun] at hsome
  cases hfinished with
  | nameless hother =>
    exact absurd (hchosen.symm.trans hother) (by simp)
  | empty _ hstate => exact .undecoded hs hstate hfetch hdecode
  | lent _ htile =>
    obtain ⟨event, rfl⟩ := Option.isSome_iff_exists.mp (hsome ⟨_, rfl⟩)
    exact .lent hs hfetch (hdecode event rfl) fun f hf =>
      exists_of_decodedAt (htile f (hd.trans hf))

theorem acquired_acquireRemote {state : State} (hs : d.settled? = none)
    (hstate : state = .remote ∧ (d.state = .unknown ∨ d.state = .remote) ∨
      state = .localError ∧ d.state = .localError) (henabled : d.remoteEnabled) (world : World) :
    let ended := acquireRemote.run ({ d with state }, world)
    Acquired d world ended.1 ended.2.1 (world.work ended.2.2) := by
  intro ended
  obtain ⟨result, fetcher, left, hrun, -, hrecords, hdecoder, hvalue⟩ :=
    fetchRemote_frame { d with state } world
  obtain ⟨fetch, hwork, hfetch⟩ := work_fetchRemote { d with state } world
  have hfetch : ∀ event ∈ fetch, event.isFetch ∧ d.remoteEnabled :=
    fun event he => ⟨hfetch event he, henabled⟩
  rw [hrun] at hwork
  have hended := run_acquireRemote { d with state } world
  rw [hrun] at hended
  rw [show ended = _ from hended]
  rcases result with fault | value | message | message | message
  · exact hwork ▸ .unfetched hs (.inr (.inr hstate)) hfetch (by simp)
  · -- The archive has a name, so there is something to decode or there is nothing left.
    have ha : d.copy.archive = .ok value := hvalue value rfl
    obtain ⟨found, hchosen⟩ : ∃ found, d.chosen (some value) left.files = .ok found := by
      cases hc : d.chosen (some value) left.files with
      | ok found => exact ⟨found, rfl⟩
      | error fault =>
        unfold chosen at hc
        split at hc
        · cases hc
        · rw [(locate_error.mp hc).2] at ha
          cases ha
    have hafter := (steady_finish { d with fetcher, state := .onDisk } (some value) left).records
    have hsplit := World.work_trans hrecords.suffix hafter.suffix
    rw [show world.work left = fetch.toList from hwork] at hsplit
    exact hsplit ▸ acquired_finish hs hfetch hdecoder fetcher _ hchosen
  · exact hwork ▸ .unfetched hs (.inl rfl) hfetch (by simp)
  · exact hwork ▸ .unfetched hs (.inr (.inr hstate)) hfetch (by simp)
  · exact hwork ▸ .unfetched hs (.inr (.inl rfl)) hfetch (by simp)

theorem probed_ok {files : FileSystem} {state : State} (h : d.probed files = .ok state) :
    d.state = .unknown ∧
        (state = .remote ∨ state = .onDisk ∧ ∃ path, d.copy.locate files = .ok (some path)) ∨
      d.state ≠ .unknown ∧ state = d.state := by
  unfold probed LocalCopy.isPresent at h
  split at h
  · next hu =>
    refine .inl ⟨hu, ?_⟩
    rcases hl : d.copy.locate files with fault | _ | path
    · simp [hl, Except.map] at h
    · refine .inl ?_
      simpa [hl, Except.map] using h.symm
    · refine .inr ⟨?_, path, rfl⟩
      simpa [hl, Except.map] using h.symm
  · next hu => exact .inr ⟨hu, (Except.ok.inj h).symm⟩

theorem acquired_getTile (d : Descriptor) (world : World) :
    let ended := getTile.run (d, world)
    Acquired d world ended.1 ended.2.1 (world.work ended.2.2) := by
  intro ended
  rw [show ended = _ from run_getTile d world]
  cases hs : d.settled? with
  | some answer => exact world.work_self ▸ .settled hs
  | none =>
    cases hp : d.probed world.files with
    | error fault => exact world.work_self ▸ .nameless hs
    | ok state =>
      have hnone : ∀ event ∈ (none : Option Event), event.isFetch ∧ d.remoteEnabled := by simp
      have hprobed := probed_ok hp
      dsimp only
      split
      · next hstate =>
        -- A fetch is due: the state is remote since just now or from before.
        have hstate : state = .remote ∧ (d.state = .unknown ∨ d.state = .remote) ∨
            state = .localError ∧ d.state = .localError := by
          rcases hprobed with ⟨hu, hremote | ⟨hdisk, -⟩⟩ | ⟨-, rfl⟩
          · exact .inl ⟨hremote, .inl hu⟩
          · simp [hdisk] at hstate
          · exact hstate.imp (fun h => ⟨h, .inr h⟩) fun h => ⟨h, h⟩
        split
        · next henabled => exact acquired_acquireRemote hs hstate henabled world
        · have h : Acquired d world (.ok none) { d with state } (none : Option Event).toList :=
            .unfetched hs (.inr (.inr hstate)) hnone (by simp)
          exact world.work_self ▸ h
      · next hstate =>
        cases hl : d.copy.locate world.files with
        | ok found => exact acquired_finish hs hnone rfl d.fetcher state hl
        | error fault =>
          have hsame : state = d.state := by
            rcases hprobed with ⟨-, rfl | ⟨-, path, h⟩⟩ | ⟨-, h⟩
            · exact absurd (.inl rfl) hstate
            · exact absurd (hl.symm.trans h) (by simp)
            · exact h
          subst hsame
          rw [run_finish_eq, show d.chosen none world.files = _ from hl]
          exact world.work_self ▸ .nameless hs

end TerrainTiles.Descriptor
