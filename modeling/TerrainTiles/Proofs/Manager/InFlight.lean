import TerrainTiles.Proofs.Descriptor.Work
import TerrainTiles.Proofs.Manager.Interleaving

/-!
# Fetches of requests in flight

Marking a source as offline disables the remote of its tracked descriptors, and
those that are made later are disabled as well. A request that is under way may
hold a descriptor that a release has taken away before the mark though (`Stray`).
That one is missed: acquiring its tile still fetches, and nothing else does
(`fetches_after_mark_iff`).
-/

namespace TerrainTiles.Manager

open Act

variable {s base : System} {m m' : Manager} {name other : String} {id i j : Nat}
  {d d' : Descriptor} {step : Step}

/-- In the pool, but not tracked any more. -/
def Stray (m : Manager) (id : Nat) : Prop := id < m.pool.length ∧ id ∉ m.tracked.map (·.2)

theorem not_stray_of_mem {key : Key} (h : (key, id) ∈ m.tracked) : ¬ Stray m id :=
  fun hstray => hstray.2 (List.mem_map.mpr ⟨(key, id), h, rfl⟩)

theorem Grows.length_le {disabled : List Nat} (h : Grows disabled m m') :
    m.pool.length ≤ m'.pool.length := by
  refine Nat.le_of_not_lt fun hlt => ?_
  obtain ⟨d', hd', -⟩ := h.kept _ _ (List.getElem?_eq_getElem hlt)
  simp at hd'

-- ---------------------------------------------------------------------------
-- Later systems
-- ---------------------------------------------------------------------------

/-- What is stray in `base` stays so, and only a request that held it there holds it still. -/
structure Since (base s : System) : Prop where
  coherent : Coherent s
  settings : s.manager.settings = base.manager.settings
  length : base.manager.pool.length ≤ s.manager.pool.length
  tracked : ∀ key id, (key, id) ∈ s.manager.tracked → ¬ Stray base.manager id
  held : ∀ (j : Nat) name id, s.requests[j]? = some (.holding name id) → Stray base.manager id →
    base.requests[j]? = some (.holding name id)

theorem Since.refl (h : Coherent s) : Since s s :=
  ⟨h, rfl, Nat.le_refl _, fun _ _ => not_stray_of_mem, fun _ _ _ hj _ => hj⟩

theorem Since.after (h : Since base s) (step : Step) : Since base (step.after s) := by
  have hgrows := grows_after h.coherent step
  have htracked : ∀ key id, (key, id) ∈ (step.after s).manager.tracked →
      ¬ Stray base.manager id := by
    intro key id hentry hstray
    rcases hgrows.tracked key id hentry with hold | hnew
    · exact h.tracked key id hold hstray
    · exact absurd (Nat.lt_of_lt_of_le hstray.1 h.length)
        (Nat.not_lt.mpr (List.getElem?_eq_none_iff.mp hnew))
  refine ⟨coherent_after s step h.coherent, hgrows.settings.trans h.settings,
    Nat.le_trans h.length hgrows.length_le, htracked, ?_⟩
  intro j name id hj hstray
  rcases request_after h.coherent step hj with hold | ⟨tile, hentry⟩
  · exact h.held j name id hold hstray
  · exact absurd hstray (htracked _ id hentry)

-- ---------------------------------------------------------------------------
-- Marked sources
-- ---------------------------------------------------------------------------

/-- The source was marked in `base`, and the mark spared what was stray there. -/
structure Marked (base : System) (name : String) (s : System) : Prop where
  since : Since base s
  offline : s.manager.isOffline name
  follows : Follows s.manager name (Stray base.manager)

theorem follows_mark (h : Coherent s) (hmarks : step.marks s = some name)
    (ho : s.manager.isOffline name = false) :
    Follows (step.after s).manager name (Stray s.manager) := by
  have hgrows := grows_after h step
  have hoffline : (step.after s).manager.isOffline name := by simp [offline_after h, hmarks]
  intro id d' hd' hsource
  cases hd : s.manager.pool[id]? with
  | none =>
    obtain ⟨other, hother, hallowed⟩ := hgrows.made id d' hd hd'
    obtain rfl := hother.unique hsource
    have hnew : ¬ Stray s.manager id := fun hstray =>
      absurd hstray.1 (Nat.not_lt.mpr (List.getElem?_eq_none_iff.mp hd))
    simp [hallowed, hoffline, hnew]
  | some d =>
    obtain ⟨_, hsame, hcopy, hallowed⟩ := hgrows.kept id d hd
    cases hd'.symm.trans hsame
    have hbefore : OfSource s.manager name d := hsource.mono hgrows.settings.symm hcopy.symm
    have henabled : d.remoteAllowed := (h.follows name ho id d hd hbefore).mpr (.inl ho)
    -- A key that leads to the descriptor is one of the source, so the mark finds it.
    have hdisables : id ∈ step.disables s ↔ id ∈ s.manager.tracked.map (·.2) := by
      simp only [Step.disables, hmarks, ho, Bool.false_eq_true, if_false]
      refine ⟨fun hid => (List.filter_sublist.map _).subset hid, fun hid => ?_⟩
      obtain ⟨⟨key, _⟩, hentry, rfl⟩ := List.mem_map.mp hid
      obtain ⟨_, hother, hfits⟩ := h.consistent.fits _ _ hentry
      cases hd.symm.trans hother
      refine List.mem_map.mpr ⟨(key, _), List.mem_filter.mpr ⟨hentry, ?_⟩, rfl⟩
      exact decide_eq_true (hfits.ofSource.unique hbefore)
    have hlt := (List.getElem?_eq_some_iff.mp hd).1
    simp [hallowed, henabled, hoffline, hdisables, Stray, hlt]

theorem marked_mark (h : Coherent s) (hmarks : step.marks s = some name)
    (ho : s.manager.isOffline name = false) : Marked s name (step.after s) :=
  ⟨(Since.refl h).after step, by simp [offline_after h, hmarks], follows_mark h hmarks ho⟩

theorem marked_after (s : System) (step : Step) (h : Marked base name s) :
    Marked base name (step.after s) := by
  have hcoherent := h.since.coherent
  refine ⟨h.since.after step, by simp [offline_after hcoherent, h.offline], ?_⟩
  exact follows_after hcoherent (fun id hstray => Nat.lt_of_lt_of_le hstray.1 h.since.length)
    (.inr h.offline) h.follows

-- ---------------------------------------------------------------------------
-- Fetches
-- ---------------------------------------------------------------------------

/-- The step fetches an archive that stands right in the directory. -/
def Fetches (s : System) (step : Step) (directory : Path) : Prop :=
  ∃ event ∈ s.world.work (step.after s).world, FetchesBelow directory event

/-- Of an offline source only a request that acquires fetches anything. -/
theorem acquire_of_fetches (h : Coherent s) (ho : s.manager.isOffline name)
    (hf : Fetches s step (s.manager.settings.cache / name)) : ∃ j, step = .acquire j := by
  refine Classical.byContradiction fun hne => ?_
  obtain ⟨event, hevent, hbelow⟩ := hf
  have htransition := transition_after h (not_exists.mp hne)
  exact not_fetchesBelow h.consistent ho (htransition.records.of_mem_work hevent).1 hbelow

theorem fetches_acquire_iff (h : Coherent s) (hknown : ∃ source ∈ Source.all, source.id = name) :
    Fetches s (.acquire j) (s.manager.settings.cache / name) ↔
      ∃ id d, s.requests[j]? = some (.holding name id) ∧ s.manager.pool[id]? = some d ∧
        d.Due s.world.files ∧ d.remoteEnabled ∧ ∃ path, d.copy.archive = .ok path := by
  unfold Fetches
  constructor
  · rintro ⟨_, hevent, path, rfl, hparent⟩
    rcases acquire_cases h j with hafter | ⟨held, id, d, hj, hd, hof, hafter⟩
    · simp [hafter] at hevent
    · obtain ⟨source, hsource, rfl, index, hcopy⟩ := hof
      rw [hafter, Descriptor.mem_work_getTile_iff] at hevent
      obtain ⟨hdue, henabled, ha⟩ := hevent
      -- The archive stands in the directory of the source that was asked for.
      obtain ⟨source', hsource', rfl⟩ := hknown
      have hdirectory := (Source.parent_archive hsource (hcopy ▸ ha)).symm.trans hparent
      rw [← Source.directory_injective hsource hsource' hdirectory]
      exact ⟨id, d, hj, hd, hdue, henabled, path, ha⟩
  · rintro ⟨id, d, hj, hd, hdue, henabled, path, ha⟩
    obtain ⟨_, hsame, source, hsource, rfl, index, hcopy⟩ := h.held j name id hj
    cases hd.symm.trans hsame
    rw [after_acquire hj (run_onDescriptor hd _ _)]
    exact ⟨.fetchBegun path, (Descriptor.mem_work_getTile_iff d s.world path).mpr
      ⟨hdue, henabled, ha⟩, path, rfl, Source.parent_archive hsource (hcopy ▸ ha)⟩

/-- After a source was marked as offline, in whatever order the requests' steps and
releases come, a step fetches from it exactly if it acquires the tile for a request
that held a descriptor at the mark which was released by then, and a fetch is due. -/
theorem fetches_after_mark_iff (settings : Settings) (world : World) (before later : List Step)
    (i : Nat) (name : String) (next : Step) :
    let base := afterSteps before { manager := ofSettings settings, world }
    let s := afterSteps (.mark i :: later) base
    base.requests[i]? = some (.raised name) → base.manager.isOffline name = false →
      (Fetches s next (settings.cache / name) ↔
        ∃ j id d, next = .acquire j ∧
          base.requests[j]? = some (.holding name id) ∧ Stray base.manager id ∧
          s.requests[j]? = some (.holding name id) ∧ s.manager.pool[id]? = some d ∧
          d.Due s.world.files ∧ d.fetcher.isSome ∧ ∃ path, d.copy.archive = .ok path) := by
  intro base s hraised honline
  obtain ⟨hbase, hsettings⟩ := coherent_afterSteps settings world before
  have hmarks : (Step.mark i).marks base = some name := by simp [Step.marks, hraised]
  have hmarked : Marked base name s :=
    invariant_afterSteps marked_after (marked_mark hbase hmarks honline) later
  have hcoherent := hmarked.since.coherent
  have hcache : settings.cache = s.manager.settings.cache := by
    rw [hmarked.since.settings, hsettings]
  have hknown := hbase.raised i name hraised
  rw [hcache]
  constructor
  · intro hfetches
    obtain ⟨j, rfl⟩ := acquire_of_fetches hcoherent hmarked.offline hfetches
    obtain ⟨id, d, hj, hd, hdue, henabled, ha⟩ := (fetches_acquire_iff hcoherent hknown).mp hfetches
    obtain ⟨_, hsame, hsource⟩ := hcoherent.held j name id hj
    cases hd.symm.trans hsame
    simp only [Descriptor.remoteEnabled, Bool.and_eq_true] at henabled
    have hstray : Stray base.manager id := by
      simpa [hmarked.offline] using (hmarked.follows id d hd hsource).mp henabled.1
    exact ⟨j, id, d, rfl, hmarked.since.held j name id hj hstray, hstray, hj, hd, hdue,
      henabled.2, ha⟩
  · rintro ⟨j, id, d, rfl, -, hstray, hj, hd, hdue, hfetcher, ha⟩
    obtain ⟨_, hsame, hsource⟩ := hcoherent.held j name id hj
    cases hd.symm.trans hsame
    have hallowed : d.remoteAllowed := (hmarked.follows id d hd hsource).mpr (.inr hstray)
    refine (fetches_acquire_iff hcoherent hknown).mpr ⟨id, d, hj, hd, hdue, ?_, ha⟩
    simp [Descriptor.remoteEnabled, hallowed, hfetcher]

/-- The first request's descriptor was released before the second request found the
source unreachable. -/
def overtaken : System :=
  afterSteps [.find "srtm3" 7 46, .release none, .find "srtm3" 12 46, .acquire 1]
    { manager := ofSettings unreachable
      world := { files := .empty, decoder := .scripted [] (.ok none) } }

/-- A request that comes after the mark fetches nothing. -/
theorem fetches_after_mark_overtaken :
    overtaken.requests[1]? = some (.raised "srtm3") ∧
      overtaken.manager.isOffline "srtm3" = false ∧
      ¬ Fetches (afterSteps [.mark 1, .find "srtm3" 7 46] overtaken) (.acquire 2)
        (unreachable.cache / "srtm3") := by
  have hraised : overtaken.requests[1]? = some (.raised "srtm3") := by decide +kernel
  have honline : overtaken.manager.isOffline "srtm3" = false := by decide +kernel
  refine ⟨hraised, honline, fun hfetches => ?_⟩
  obtain ⟨j, id, d, hj, hheld, -⟩ := (fetches_after_mark_iff unreachable _ _
    [.find "srtm3" 7 46] 1 "srtm3" (.acquire 2) hraised honline).mp hfetches
  cases hj
  have hnone : overtaken.requests[2]? = none := by decide +kernel
  exact absurd (hnone.symm.trans hheld) (by simp)

/-- The first request still fetches after the mark. -/
theorem fetches_overtaken :
    overtaken.requests[1]? = some (.raised "srtm3") ∧
      Fetches (afterSteps [.mark 1] overtaken) (.acquire 0) (unreachable.cache / "srtm3") := by
  refine ⟨by decide +kernel, .fetchBegun ⟨.root, ["dem", "srtm3", "srtm_38_03.zip"]⟩, ?_, ?_⟩
  · decide +kernel
  · exact ⟨_, rfl, by decide +kernel⟩

end TerrainTiles.Manager
