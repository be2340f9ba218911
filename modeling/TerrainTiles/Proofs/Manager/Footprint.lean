import TerrainTiles.Proofs.Descriptor.Footprint
import TerrainTiles.Proofs.Manager.Fetchers
import TerrainTiles.Proofs.Source.Naming

/-!
# Only archives are touched

`Requested` lists the archives of the tiles that calls ask to have acquired. With the
real fetchers a call touches the archive of its own tile only (`footprint_call`), so a
run changes no other file, and makes no directories but those above the archives that
were requested (`only_archives_touched`).
-/

namespace TerrainTiles.Manager

open Act

variable {α β : Type} {m m' : Manager} {world : World} {d d' : Descriptor} {id : Nat}
  {archives : Path → Prop} {start : World} {s t : Manager × World} {source : Source}
  {index : TileIndex} {settings : Settings} {name : String} {lon lat : Double}

-- ---------------------------------------------------------------------------
-- Real fetchers
-- ---------------------------------------------------------------------------

def MakesReal (settings : Settings) : Prop :=
  ∀ source n fetcher, settings.makeFetcher source n = some fetcher → fetcher.isReal

theorem makesReal_sourceFetcher {environment : Environment}
    (h : settings.makeFetcher = Settings.sourceFetcher environment) :
    MakesReal settings := by
  intro source n fetcher hf
  rw [h] at hf
  unfold Settings.sourceFetcher at hf
  split at hf <;> cases hf <;> rfl

-- ---------------------------------------------------------------------------
-- Steps
-- ---------------------------------------------------------------------------

structure Footprint (archives : Path → Prop) (start : World) (s : Manager × World) : Prop where
  real : Furnished (·.isReal) s.1
  touches : start.Touches archives s.2

theorem Footprint.onDescriptor (h : Footprint archives start (m, world))
    (hd : m.pool[id]? = some d) {act : Act Descriptor α}
    (halike : Descriptor.Alike d (act.run (d, world)).2.1)
    (htouches : world.Touches archives (act.run (d, world)).2.2) :
    Footprint archives start ((onDescriptor id act).run (m, world)).2 := by
  rw [run_onDescriptor hd]
  exact ⟨furnished_set Fetcher.lasting_isReal h.real hd halike, IsTrans.trans _ _ _ h.touches htouches⟩

theorem footprint_dispose (id : Nat) :
    (onDescriptor id Descriptor.dispose).Preserves (Footprint archives start) := by
  rintro ⟨m, world⟩ h
  cases hd : m.pool[id]? with
  | none =>
    rw [run_onDescriptor_missing hd]
    exact h
  | some d =>
    exact h.onDescriptor hd (Descriptor.steady_dispose (d, world)).alike
      (World.touches_of_files_eq (Descriptor.files_dispose d world))

theorem footprint_disposeAll (ids : List Nat) :
    (disposeAll ids).Preserves (Footprint archives start) := by
  induction ids with
  | nil => exact fun _ h => h
  | cons id rest ih => exact .bind (footprint_dispose id) fun _ => ih

theorem footprint_untrack (source : Option String) :
    (untrack source).Preserves (Footprint archives start) := by
  rintro ⟨m, world⟩ h
  rw [run_untrack_eq]
  exact ⟨⟨h.real.made, h.real.pool⟩, h.touches⟩

theorem footprint_release (source : Option String) :
    (release source).Preserves (Footprint archives start) :=
  .bind (footprint_untrack source) fun ids => .bind (footprint_disposeAll ids) fun _ _ h => h

theorem footprint_markOffline (name : String) :
    (markOffline name).Preserves (Footprint archives start) := by
  rintro ⟨m, world⟩ h
  exact ⟨furnished_markOffline h.real name world, h.touches⟩

theorem footprint_descriptorFor (name : String) (lon lat : Double) :
    (descriptorFor name lon lat).Preserves (Footprint archives start) := by
  rintro ⟨m, world⟩ h
  rcases run_descriptorFor m name lon lat world with
    ⟨fault, hrun, -⟩ | ⟨source, -, -, index, -, ⟨id, -, hrun⟩ | hrun⟩
  · exact hrun ▸ h
  · exact hrun ▸ h
  · rw [hrun]
    exact ⟨furnished_track h.real source _ world, h.touches⟩

theorem Footprint.acquire (h : Footprint archives start (m, world)) (hd : m.pool[id]? = some d)
    (harchives : ∀ path, d.IsArchive path → archives path) (name : String) :
    Footprint archives start ((acquire name id).run (m, world)).2 := by
  have hreal := h.real.pool d (List.mem_of_getElem? hd)
  have htouches : world.Touches archives _ :=
    (Descriptor.touches_getTile hreal world).mono harchives
  have hget := h.onDescriptor hd (Descriptor.steady_getTile (d, world)).alike htouches
  unfold Manager.acquire
  rw [run_bind, run_attempt]
  generalize (Manager.onDescriptor id Descriptor.getTile).run (m, world) = ended at hget ⊢
  obtain ⟨fault | loan, t⟩ := ended
  · dsimp only
    cases isAcquisitionFault fault with
    | true =>
      simp only [if_true, run_bind]
      exact footprint_markOffline name t hget
    | false => exact hget
  · exact hget

-- ---------------------------------------------------------------------------
-- Requests
-- ---------------------------------------------------------------------------

theorem Fits.copy_eq (h : Fits m (source.id, source.fileName index) d) (hs : source ∈ Source.all) :
    d.copy = source.localCopy m.settings.cache (source.fileName index) := by
  obtain ⟨⟨other, hother, index', hkey, hcopy⟩, -⟩ := h
  obtain ⟨hid, hname⟩ := Prod.mk.inj hkey
  have hfind := Source.find_id hs
  rw [hid, Source.find_id hother] at hfind
  obtain rfl : other = source := Except.ok.inj hfind
  rw [hcopy, hname]

theorem found_descriptorFor (h : Consistent m)
    (hrun : (descriptorFor name lon lat).run (m, world) = (.ok id, t)) :
    ∃ source index d, Source.find name = .ok source ∧ source.index lon lat = .ok index ∧
      t.1.pool[id]? = some d ∧
      d.copy = source.localCopy m.settings.cache (source.fileName index) := by
  rcases run_descriptorFor m name lon lat world with
    ⟨fault, hrun', -⟩ | ⟨source, hs, rfl, index, hindex, ⟨found, htracked, hrun'⟩ | hrun'⟩
  · cases hrun.symm.trans hrun'
  · cases hrun.symm.trans hrun'
    obtain ⟨d, hd, hfits⟩ := h.fits _ _ htracked
    exact ⟨source, index, d, Source.find_id hs, hindex, hd, hfits.copy_eq hs⟩
  · rw [run_track] at hrun'
    cases hrun.symm.trans hrun'
    exact ⟨source, index, _, Source.find_id hs, hindex, by simp, newDescriptor_copy m source _⟩

def Call.Asks (settings : Settings) (source : Source) (index : TileIndex) : Call → Prop
  | getTile lon lat choice | getElevation lon lat choice _ =>
    Source.find ((ofSettings settings).effective choice) = .ok source ∧
      source.index lon lat = .ok index
  | _ => False

/-- The path is that of the archive of a tile that one of the calls asks for. -/
def Requested (settings : Settings) (calls : List Call) (path : Path) : Prop :=
  ∃ call ∈ calls, ∃ source index, call.Asks settings source index ∧
    (source.localCopy settings.cache (source.fileName index)).archive = .ok path

theorem Footprint.request (h : Footprint archives start (m, world)) (hm : Consistent m)
    (choice : Option String) (lon lat : Double)
    (harchives : ∀ source index path, Source.find (m.effective choice) = .ok source →
      source.index lon lat = .ok index →
      (source.localCopy m.settings.cache (source.fileName index)).archive = .ok path →
      archives path)
    {answer : String → Nat → Option Loan → Act Manager β}
    (hanswer : ∀ source id loan, Plain (answer source id loan)) :
    let request := chooseSource choice >>= fun source => descriptorFor source lon lat >>= fun id =>
      Manager.acquire source id >>= fun loan => answer source id loan
    Footprint archives start (request.run (m, world)).2 := by
  intro request
  have hrequest : request.run (m, world) = _ := run_bind_of_ok (run_chooseSource m choice world)
  have hfound : Footprint archives start _ :=
    footprint_descriptorFor (m.effective choice) lon lat (m, world) h
  rw [hrequest]
  cases hrun : (descriptorFor (m.effective choice) lon lat).run (m, world) with
  | mk result t =>
    rw [hrun] at hfound
    cases result with
    | error fault => exact run_bind_of_error hrun ▸ hfound
    | ok id =>
      obtain ⟨source, index, d, hfind, hindex, hd, hcopy⟩ := found_descriptorFor hm hrun
      have hasked : ∀ path, d.IsArchive path → archives path := fun path hpath =>
        harchives source index path hfind hindex (hcopy ▸ hpath)
      have hacquired := hfound.acquire hd hasked (m.effective choice)
      rw [run_bind_of_ok hrun, run_bind]
      generalize (Manager.acquire (m.effective choice) id).run t = ended at hacquired ⊢
      obtain ⟨fault | loan, u⟩ := ended
      · exact hacquired
      · obtain ⟨result, hrest, -⟩ := hanswer (m.effective choice) id loan u
        dsimp only
        rw [hrest]
        exact hacquired

-- ---------------------------------------------------------------------------
-- Runs
-- ---------------------------------------------------------------------------

theorem footprint_call (h : Footprint archives start s) (hm : Consistent s.1) (call : Call)
    (harchives : ∀ path, Requested s.1.settings [call] path → archives path) :
    Footprint archives start (call.run s).2 := by
  obtain ⟨m, world⟩ := s
  have hasked : ∀ source index, call.Asks m.settings source index → ∀ path,
      (source.localCopy m.settings.cache (source.fileName index)).archive = .ok path →
      archives path := fun source index hasks path hpath =>
    harchives path ⟨call, List.mem_singleton_self call, source, index, hasks, hpath⟩
  cases call with
  | getTile lon lat choice =>
    exact h.request hm choice lon lat
      (fun source index path hfind hindex => hasked source index ⟨hfind, hindex⟩ path)
      (fun source id loan => plain_report source id fun _ => loan.map (·.tile))
  | getElevation lon lat choice method =>
    change Footprint archives start ((Manager.getElevation lon lat choice method).run (m, world)).2
    unfold Manager.getElevation
    split
    · exact h
    · exact h.request hm choice lon lat
        (fun source index path hfind hindex => hasked source index ⟨hfind, hindex⟩ path)
        (fun source id loan => plain_pointReport source method lon lat id loan)
  | tileStatus lon lat choice =>
    have hfound : Footprint archives start _ :=
      footprint_descriptorFor (m.effective choice) lon lat (m, world) h
    change Footprint archives start ((Manager.tileStatus lon lat choice).run (m, world)).2
    unfold Manager.tileStatus
    rw [run_bind_of_ok (run_chooseSource m choice world), run_bind]
    generalize (descriptorFor (m.effective choice) lon lat).run (m, world) = ended at hfound ⊢
    obtain ⟨fault | id, t⟩ := ended
    · exact hfound
    · obtain ⟨result, hrest, -⟩ :=
        plain_report (m.effective choice) id (·.cached.map (·.tile)) t
      dsimp only
      rw [hrest]
      exact hfound
  | descriptor name lon lat => exact footprint_descriptorFor name lon lat (m, world) h
  | release source => exact footprint_release source (m, world) h

theorem footprint_afterAll (h : Footprint archives start s) (hm : Consistent s.1)
    (calls : List Call) (harchives : ∀ path, Requested s.1.settings calls path → archives path) :
    Footprint archives start (afterAll calls s) := by
  induction calls generalizing s with
  | nil => exact h
  | cons call rest ih =>
    have hstep := call.transition hm
    refine ih (footprint_call h hm call fun path => ?_) hstep.consistent fun path => ?_
    · rintro ⟨_, hcall, hrequested⟩
      exact harchives path ⟨call, List.mem_cons_self, List.mem_singleton.mp hcall ▸ hrequested⟩
    · rintro ⟨other, hother, hrequested⟩
      exact harchives path ⟨other, List.mem_cons_of_mem call hother, hstep.settings ▸ hrequested⟩

/-- Whatever the remote places answer and whatever is asked for, only the archives of
the tiles that were asked for are made, changed or deleted, and no plain file is; every
directory stays, and those that are made are above an archive that was asked for. -/
theorem only_archives_touched {settings : Settings} (hreal : MakesReal settings) (world : World)
    (calls : List Call) :
    let before := world.files
    let after := (afterAll calls (ofSettings settings, world)).2.files
    (∀ loc, (∀ path, Requested settings calls path → after.locate path ≠ .ok loc) → ∀ content,
        after.node? loc = some (.file content) ↔ before.node? loc = some (.file content)) ∧
      (∀ source ∈ Source.all, ∀ index loc,
        after.locate (source.localCopy settings.cache (source.fileName index)).plain = .ok loc →
        ∀ content,
          after.node? loc = some (.file content) ↔ before.node? loc = some (.file content)) ∧
      (∀ loc, after.node? loc = some .directory → before.node? loc = some .directory ∨
        ∃ call ∈ calls, ∃ source index, call.Asks settings source index ∧
          ∃ above : Path, above.IsAbove (settings.cache / source.id) ∧
            after.locate above = .ok loc) ∧
      (∀ loc, before.node? loc = some .directory → after.node? loc = some .directory) ∧
      ∀ path loc, before.locate path = .ok loc → after.locate path = .ok loc := by
  intro before after
  have hrun : Footprint (Requested settings calls) world
      (afterAll calls (ofSettings settings, world)) :=
    footprint_afterAll ⟨furnished_ofSettings hreal, Std.Refl.refl world⟩ (consistent_ofSettings settings)
      calls fun _ h => h
  have htouches : before.Touches (Requested settings calls) after := hrun.touches
  have hlisted : ∀ {call : Call} {source index}, call.Asks settings source index →
      source ∈ Source.all := by
    intro call source index hasks
    cases call with
    | getTile | getElevation => exact (Source.find_eq_ok hasks.1).1
    | _ => exact hasks.elim
  refine ⟨htouches.files, ?_, ?_, htouches.keeps,
    fun path loc => FileSystem.locate_of_keepsDirectories htouches.keeps⟩
  · intro source hs index loc hl
    refine htouches.files loc ?_
    rintro path ⟨call, -, other, index', hasks, hpath⟩
    exact Source.plain_apart hs (hlisted hasks) hpath hl
  · intro loc hd
    refine (htouches.directories loc hd).imp_right ?_
    rintro ⟨path, above, ⟨call, hcall, source, index, hasks, hpath⟩, habove, hl⟩
    rw [Source.parent_archive (hlisted hasks) hpath] at habove
    exact ⟨call, hcall, source, index, hasks, above, habove, hl⟩

def shipped : Settings where
  cache := ⟨.root, ["dem"]⟩
  defaultSource := "srtm3"
  environment := []
  makeFetcher := Settings.sourceFetcher []

def answering : World where
  files := .empty
  decoder := .scripted [] (.ok none)
  replies _ := [.answered { chunks := [[80], [75]] }]

theorem only_archives_touched_answering :
    let after := (afterAll [.getTile 7 46 none] (ofSettings shipped, answering)).2.files
    MakesReal shipped ∧ after.content? ⟨.root, ["dem", "srtm3", "srtm_38_03.zip"]⟩ = some [80, 75] ∧
      ∀ content, after.node? ["dem", "srtm3", "srtm_38_03.tif"] ≠ some (.file content) := by
  have hreal : MakesReal shipped := makesReal_sourceFetcher rfl
  obtain ⟨-, hplain, -⟩ := only_archives_touched hreal answering [.getTile 7 46 none]
  have hcontent : (afterAll [.getTile 7 46 none] (ofSettings shipped, answering)).2.files.content?
      ⟨.root, ["dem", "srtm3", "srtm_38_03.zip"]⟩ = some [80, 75] := by decide +kernel
  have hleads : (afterAll [.getTile 7 46 none] (ofSettings shipped, answering)).2.files.locate
      (Source.srtm3.localCopy shipped.cache (Source.srtm3.fileName (38, 3))).plain =
      .ok ["dem", "srtm3", "srtm_38_03.tif"] := by decide +kernel
  refine ⟨hreal, hcontent, fun content hfile => ?_⟩
  have hbefore := (hplain Source.srtm3 (by decide) (38, 3) _ hleads content).mp hfile
  cases hbefore

end TerrainTiles.Manager
