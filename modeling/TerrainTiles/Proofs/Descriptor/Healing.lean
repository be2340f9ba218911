import TerrainTiles.Proofs.Descriptor.Routes

/-!
# Healing by a fetch

A descriptor that can fetch, and whose fetches bring a good archive, lends a tile by its
second call, unless its local copy turns out to hold no product (`lends_of_brings`). The
first call may be spent on a local copy that does not decode; after that the local copy
is not looked for again, and what was fetched is decoded past any plain file.

An archive that is named by the mere ending is not read as one, so that a fetch of it
does not help (`unhealed_mere_ending`).
-/

namespace TerrainTiles.Descriptor

open Act

/-- If the call fetches, the fetch succeeds and leaves an archive of the tile. -/
def Brings (f : Reader) (tile : Tile) (s : Descriptor × World) : Prop :=
  ∀ fetcher path, s.1.Due s.2.files → s.1.fetcher = some fetcher → s.1.copy.archive = .ok path →
    (asked fetcher path s.2).1 = .ok (.success path) ∧
      ∃ data content, (asked fetcher path s.2).2.2.files.content? path = some data ∧
        Archive.contentIn f.unpacker data path s.1.tileName = .ok content ∧
        f content s.1.tileName = .ok (some tile)

structure Redeems (f : Reader) (tile : Tile) (path : Path) (s : Descriptor × World) : Prop where
  lends : ∃ loan, (getTile.run s).1 = .ok (some loan) ∧ loan.tile = tile
  decoded : ∃ data content, (getTile.run s).2.2.files.content? path = some data ∧
    Archive.contentIn f.unpacker data path s.1.tileName = .ok content ∧
    f content s.1.tileName = .ok (some tile) ∧
    (Step.call .getTile).work s = [.fetchBegun path, .decodedBytes content s.1.tileName]

variable {f : Reader} {tile : Tile} {d : Descriptor} {world : World} {s : Descriptor × World}
  {path : Path} {data content : Bytes}

-- ---------------------------------------------------------------------------
-- Calls that fetch
-- ---------------------------------------------------------------------------

theorem run_finish_preferred (hd : world.decoder = .deterministic f)
    (hs : Archive.hasArchiveSuffix path) (hfile : world.files.content? path = some data)
    (hread : Archive.contentIn f.unpacker data path d.tileName = .ok content)
    (htile : f content d.tileName = .ok (some tile)) :
    (finish (some path)).run (d, world) = (.ok (some ⟨tile, d.decoded⟩), { d with
      cached := some ⟨tile, d.decoded⟩, decoded := d.decoded + 1, state := .ready
      message := "" }, world.record (.decodedBytes content d.tileName)) := by
  have hchosen : d.chosen (some path) world.files = .ok (some path) := by
    simp [chosen, Option.filter, isFile_of_content? hfile]
  have hpresented : d.presented path world.files world.decoder.unpacker =
      .ok (some content, .decodedBytes content d.tileName) := by
    simp [presented, hs, hd, Decoder.unpacker, Archive.readTile_eq_contentIn hs hfile, hread,
      Except.map]
  have hdecode : world.decoder.decode (some content) d.tileName =
      (.ok (some tile), world.decoder) := by
    rw [hd, Decoder.decode, htile]
  rw [run_finish_eq, hchosen]
  dsimp only
  rw [run_decodeFile_presented, hpresented]
  dsimp only
  rw [hdecode]
  rfl

theorem redeems_of_due (hd : s.2.decoder = .deterministic f) (hs : Archive.hasArchiveSuffix path)
    (ha : s.1.copy.archive = .ok path) (henabled : s.1.remoteEnabled) (hdue : s.1.Due s.2.files)
    (hbrings : Brings f tile s) : Redeems f tile path s := by
  obtain ⟨d, world⟩ := s
  obtain ⟨fetcher, hf⟩ : ∃ fetcher, d.fetcher = some fetcher := by
    simp only [remoteEnabled, Bool.and_eq_true] at henabled
    exact Option.isSome_iff_exists.mp henabled.2
  obtain ⟨hanswer, data, content, hfile, hread, htile⟩ := hbrings fetcher path hdue hf ha
  obtain ⟨-, hrecords, hdecoder⟩ := asked_frame fetcher path world
  have hrun : getTile.run (d, world) = (.ok (some ⟨tile, d.decoded⟩), { d with
      fetcher := some (asked fetcher path world).2.1, cached := some ⟨tile, d.decoded⟩
      decoded := d.decoded + 1, state := .ready, message := "" },
      (asked fetcher path world).2.2.record (.decodedBytes content d.tileName)) := by
    rw [run_getTile_fetched hdue henabled hf ha (Prod.ext hanswer rfl)]
    exact run_finish_preferred (hdecoder.trans hd) hs hfile hread htile
  refine ⟨⟨_, congrArg Prod.fst hrun, rfl⟩, data, content, ?_, hread, htile, ?_⟩
  · rw [hrun]
    exact hfile
  · change world.work (getTile.run (d, world)).2.2 = _
    rw [hrun]
    dsimp only
    rw [World.work_trans hrecords.suffix (List.suffix_cons _ _), work_asked,
      World.work_record _ rfl]
    rfl

theorem redeems_of_fetches (hd : s.2.decoder = .deterministic f)
    (hs : Archive.hasArchiveSuffix path) (ha : s.1.copy.archive = .ok path)
    (hbrings : Brings f tile s)
    (hfetches : ∃ event ∈ (Step.call .getTile).work s, event.isFetch) :
    Redeems f tile path s := by
  obtain ⟨d, world⟩ := s
  obtain ⟨event, hevent, hfetch⟩ := hfetches
  have hpermits := ((steady_getTile (d, world)).records.of_mem_work hevent).1
  obtain ⟨henabled, _, -, rfl⟩ := hpermits hfetch
  exact redeems_of_due hd hs ha henabled (due_of_mem_work hevent) hbrings

-- ---------------------------------------------------------------------------
-- Calls that do not
-- ---------------------------------------------------------------------------

theorem probed_of_locate (hs : d.state = .unknown) {files : FileSystem} {found : Option Path}
    (hl : d.copy.locate files = .ok found) :
    d.probed files = .ok (if found.isSome then .onDisk else .remote) := by
  simp [probed, hs, LocalCopy.isPresent, hl, Except.map]

/-- Where nothing is to be fetched, a local copy is still to be looked at. -/
theorem located_of_undue (hsound : Sound d) (hs : d.settled? = none)
    (ha : d.copy.archive = .ok path) {files : FileSystem} (hundue : ¬ d.Due files) :
    d.state = .unknown ∧ ∃ found, d.copy.locate files = .ok (some found) := by
  rcases hsound.state_of_settled_none hs with hstate | hstate | hstate
  · refine ⟨hstate, ?_⟩
    cases hl : d.copy.locate files with
    | error fault =>
      rw [(locate_error.mp hl).2] at ha
      cases ha
    | ok found =>
      cases found with
      | none => exact absurd ⟨hs, _, probed_of_locate hstate hl, .inl rfl⟩ hundue
      | some found => exact ⟨found, rfl⟩
  · exact absurd ⟨hs, _, by simp [probed, hstate], .inl hstate⟩ hundue
  · exact absurd ⟨hs, _, by simp [probed, hstate], .inr hstate⟩ hundue

theorem cached_of_open {answer : Except Fault (Option Loan)} (hs : d.settled? = some answer)
    (hopen : d.state ≠ .absent ∧ d.state ≠ .fatal) : ∃ loan, d.cached = some loan := by
  unfold settled? at hs
  split at hs
  · next loan hloan => exact ⟨loan, hloan⟩
  · simp [hopen] at hs

/-- A call that does not fetch lends a tile, finds that the local copy has no product, or
leaves a fetch to the next call. -/
theorem getTile_of_undue (hd : s.2.decoder = .deterministic f) (hsound : Sound s.1)
    (hopen : s.1.state ≠ .absent ∧ s.1.state ≠ .fatal) (ha : s.1.copy.archive = .ok path)
    (hundue : ¬ s.1.Due s.2.files) :
    Lends s ∨
      ((getTile.run s).2.1.state = .absent ∧ ∃ found,
        s.1.copy.locate s.2.files = .ok (some found) ∧
        decodedAt f s.2.files found s.1.tileName = .ok none) ∨
      (getTile.run s).2.1.Due (getTile.run s).2.2.files := by
  obtain ⟨d, world⟩ := s
  cases hs : d.settled? with
  | some answer =>
    obtain ⟨loan, hloan⟩ := cached_of_open hs hopen
    exact .inl ⟨loan, by rw [run_getTile_settled (settled_of_cached hloan)]⟩
  | none =>
    obtain ⟨hstate, found, hlocate⟩ := located_of_undue hsound hs ha hundue
    have hchosen : ({ d with state := .onDisk } : Descriptor).chosen none world.files =
        .ok (some found) := hlocate
    obtain ⟨answer, left, hrun, -, hanswer⟩ :=
      run_decodeFile { d with state := .onDisk } found world
    unfold Lends
    rw [run_getTile_located (cached_of_settled_none hs) hstate hlocate, run_finish_eq, hchosen]
    dsimp only
    rw [hrun]
    rcases answer with fault | _ | tile
    · exact .inr (.inr ⟨rfl, .localError, rfl, .inr rfl⟩)
    · exact .inr (.inl ⟨rfl, found, hlocate, (hanswer f hd).symm⟩)
    · exact .inl ⟨_, rfl⟩

-- ---------------------------------------------------------------------------
-- Two calls
-- ---------------------------------------------------------------------------

structure Kept (f : Reader) (copy : LocalCopy) (s : Descriptor × World) : Prop where
  copy : s.1.copy = copy
  sound : Sound s.1
  decoder : s.2.decoder = .deterministic f

theorem kept_step {copy : LocalCopy} (s : Descriptor × World) (step : Step) (h : Kept f copy s) :
    Kept f copy (step.after s) := by
  obtain ⟨d, world⟩ := s
  have hsound := sound_step (d, world) step h.sound
  rcases step with call | change
  · refine ⟨(call.alike (d, world)).copy.trans h.copy, hsound, ?_⟩
    cases call with
    | getTile => exact (steady_getTile (d, world)).decoder f h.decoder
    | dispose => exact (steady_dispose (d, world)).decoder f h.decoder
    | disableRemote => exact h.decoder
  · exact ⟨h.copy, hsound, h.decoder⟩

/-- Whatever was done with a descriptor and its files before, and whatever they hold: if it
can fetch, its answer is not final and its fetches bring an archive of the tile, then one
of the next two calls lends a tile, or the local copy has no product; and a call that
fetches lends the tile that it fetched. -/
theorem lends_of_brings {copy : LocalCopy} {world : World}
    (hd : world.decoder = .deterministic f) (htemplate : ".zip".toList <:+ copy.template.toList)
    (ha : copy.archive = .ok path) (hname : path.name ≠ ".zip") (fetcher : Option Fetcher)
    (steps : List Step) :
    let s := afterSteps steps (fresh copy fetcher, world)
    let t := (getTile.run s).2
    s.1.remoteEnabled → s.1.state ≠ .absent ∧ s.1.state ≠ .fatal → Brings f tile s →
      Brings f tile t →
      (Lends s ∨ Lends t ∨ t.1.state = .absent ∧
        ∃ found, copy.locate s.2.files = .ok (some found) ∧
          decodedAt f s.2.files found copy.plain.name = .ok none) ∧
      ∀ u ∈ [s, t], (∃ event ∈ (Step.call .getTile).work u, event.isFetch) →
        Redeems f tile path u := by
  intro s t henabled hopen hbrings hbrings'
  have hfresh : Kept f copy (fresh copy fetcher, world) := ⟨rfl, sound_fresh copy fetcher, hd⟩
  have hs : Kept f copy s := invariant_afterSteps kept_step hfresh steps
  have ht : Kept f copy t := kept_step s (.call .getTile) hs
  have hsuffix := Archive.hasArchiveSuffix_archive htemplate ha hname
  have hredeems {u : Descriptor × World} (hu : Kept f copy u) (hbrings : Brings f tile u)
      (henabled : u.1.remoteEnabled) (hdue : u.1.Due u.2.files) : Redeems f tile path u :=
    redeems_of_due hu.decoder hsuffix (hu.copy ▸ ha) henabled hdue hbrings
  refine ⟨?_, ?_⟩
  · by_cases hdue : s.1.Due s.2.files
    · obtain ⟨loan, hloan, -⟩ := (hredeems hs hbrings henabled hdue).lends
      exact .inl ⟨loan, hloan⟩
    · have hundue := getTile_of_undue hs.decoder hs.sound hopen (hs.copy ▸ ha) hdue
      rw [tileName, hs.copy] at hundue
      rcases hundue with hlent | habsent | hdue
      · exact .inl hlent
      · exact .inr (.inr habsent)
      · have henabled' : t.1.remoteEnabled := (steady_getTile s).remoteEnabled.trans henabled
        obtain ⟨loan, hloan, -⟩ := (hredeems ht hbrings' henabled' hdue).lends
        exact .inr (.inl ⟨loan, hloan⟩)
  · intro u hu hfetches
    rcases List.mem_pair.mp hu with rfl | rfl
    · exact redeems_of_fetches hs.decoder hsuffix (hs.copy ▸ ha) hbrings hfetches
    · exact redeems_of_fetches ht.decoder hsuffix (ht.copy ▸ ha) hbrings' hfetches

theorem exists_decodeOne : ∃ tile, decodeOne [1] "t.tif" = .ok (some tile) := by
  have hsome : (decodeOne [1] "t.tif").toOption.join.isSome := by decide +kernel
  obtain ⟨tile, htile⟩ := Option.isSome_iff_exists.mp hsome
  exact ⟨tile, toOption_eq_some.mp (Option.join_eq_some_iff.mp htile)⟩

def bringing (times : Nat) : Fetcher :=
  .scripted { steps := List.replicate times { write := some (deflated "t.tif") } }

def shelved (template : String) (files : List (String × Bytes)) : Descriptor × World :=
  (fresh { plain := ⟨.root, ["d", "t.tif"]⟩, template } (some (bringing 2)), shelf files)

theorem brings_of_carries {fetcher : Fetcher} (path : Path)
    (htile : decodeOne [1] "t.tif" = .ok (some tile)) (hname : s.1.tileName = "t.tif")
    (hf : s.1.fetcher = some fetcher) (ha : s.1.copy.archive = .ok path)
    (hcarries : Archive.Carries .oneBlock (deflated "t.tif") path "t.tif" [1])
    (hanswer : (asked fetcher path s.2).1 = .ok (.success path))
    (hfile : (asked fetcher path s.2).2.2.files.content? path = some (deflated "t.tif")) :
    Brings decodeOne tile s := by
  intro other found _ hother hfound
  obtain rfl := Option.some.inj (hf.symm.trans hother)
  obtain rfl := Except.ok.inj (ha.symm.trans hfound)
  refine ⟨hanswer, deflated "t.tif", [1], hfile, ?_⟩
  rw [hname]
  exact ⟨Archive.contentIn_of_carries hcarries, htile⟩

def broken : Descriptor × World := shelved "t.zip" [("t.tif", [0]), ("t.zip", [0])]

theorem lends_of_brings_broken :
    ∃ tile, decodeOne [1] "t.tif" = .ok (some tile) ∧ Brings decodeOne tile broken ∧
      Brings decodeOne tile (getTile.run broken).2 ∧
      ∃ loan, (getTile.run (getTile.run broken).2).1 = .ok (some loan) ∧ loan.tile = tile := by
  obtain ⟨tile, htile⟩ := exists_decodeOne
  let path : Path := ⟨.root, ["d", "t.zip"]⟩
  have hcarries : Archive.Carries .oneBlock (deflated "t.tif") path "t.tif" [1] := by decide +kernel
  have hbrings : Brings decodeOne tile broken :=
    brings_of_carries path htile rfl rfl rfl hcarries (by rfl) (by decide +kernel)
  have hbrings' : Brings decodeOne tile (getTile.run broken).2 :=
    brings_of_carries path htile (by rfl) (by rfl) (by rfl) hcarries (by rfl) (by decide +kernel)
  have hfetches : ∃ event ∈ (Step.call .getTile).work (getTile.run broken).2, event.isFetch := by
    decide +kernel
  have htemplate : ".zip".toList <:+ broken.1.copy.template.toList := ⟨['t'], rfl⟩
  have ha : broken.1.copy.archive = .ok path := rfl
  have hdecoder : broken.2.decoder = .deterministic decodeOne := rfl
  obtain ⟨-, hredeems⟩ := lends_of_brings hdecoder htemplate ha (by decide) broken.1.fetcher []
    rfl ⟨by decide, by decide⟩ hbrings hbrings'
  exact ⟨tile, htile, hbrings, hbrings', (hredeems _ (List.mem_pair.mpr (.inr rfl)) hfetches).lends⟩

def mereEnding : Descriptor × World := shelved ".zip" []

/-- Both calls fetch an archive of the tile, and neither lends it. -/
theorem unhealed_mere_ending :
    ∃ tile, decodeOne [1] "t.tif" = .ok (some tile) ∧
      ".zip".toList <:+ mereEnding.1.copy.template.toList ∧ mereEnding.1.remoteEnabled ∧
      Brings decodeOne tile mereEnding ∧ Brings decodeOne tile (getTile.run mereEnding).2 ∧
      ¬ Lends mereEnding ∧ (getTile.run mereEnding).2.1.state = .localError ∧
      ¬ Lends (getTile.run mereEnding).2 := by
  obtain ⟨tile, htile⟩ := exists_decodeOne
  let path : Path := ⟨.root, ["d", ".zip"]⟩
  have hcarries : Archive.Carries .oneBlock (deflated "t.tif") path "t.tif" [1] := by decide +kernel
  have hlends {s : Descriptor × World} (h : (getTile.run s).1.toOption.all Option.isNone) :
      ¬ Lends s := by
    rintro ⟨loan, hloan⟩
    rw [hloan] at h
    cases h
  refine ⟨tile, htile, List.suffix_rfl, rfl, ?_, ?_, hlends (by decide +kernel),
    by decide +kernel, hlends (by decide +kernel)⟩
  · exact brings_of_carries path htile rfl rfl rfl hcarries (by rfl) (by decide +kernel)
  · have hleft : (getTile.run mereEnding).2.1.fetcher = some (bringing 1) := by rfl
    exact brings_of_carries path htile (by rfl) hleft (by rfl) hcarries (by rfl) (by decide +kernel)

end TerrainTiles.Descriptor
