import TerrainTiles.Proofs.Descriptor.Callers
import TerrainTiles.Proofs.Manager.Tracking
import TerrainTiles.Proofs.Tools

/-!
# The status of a tile

A status is read off the descriptor of the tile, which is made for a key that is not
tracked (`Registered`); it says the same whatever the world, so nothing of that is looked
at. What is handed out for a tile is what stays cached (`cached_of_acquired_ok`), so the
status right after a request is the same report, built from the cached tile and not from
the one handed out; and so is that of another request, since the answer of a tile that is
ready or absent is settled (`settled_of_acquired_ok`).
-/

namespace TerrainTiles

namespace Descriptor

open Act

variable {d d' : Descriptor} {loan : Option Loan} {world : World} {work : List Event}
  {s : Descriptor × World}

-- ---------------------------------------------------------------------------
-- What is left cached
-- ---------------------------------------------------------------------------

theorem cached_of_answer (h : d.settled? = some (.ok loan)) : d.cached = loan := by
  unfold settled? at h
  split at h
  · next hc => simpa [hc] using h
  · next hc =>
    split at h
    · simpa [hc] using h
    · split at h <;> simp at h

theorem cached_of_acquired_ok (ha : Acquired d world (.ok loan) d' work) : d'.cached = loan := by
  cases ha with
  | settled h => exact cached_of_answer h
  | unfetched h _ _ hresult =>
    cases loan with
    | none =>
      have hcached : d.cached = none := cached_of_settled_none h
      exact hcached
    | some loan => exact absurd rfl (hresult loan)
  | undecoded => rfl
  | lent => rfl

theorem settled_of_state_absent (hc : d.cached = none) (hs : d.state = .absent) :
    d.settled? = some (.ok none) := by
  simp [settled?, hc, hs]

/-- A call that leaves the tile ready or absent leaves its answer settled. -/
theorem settled_of_acquired_ok (ha : Acquired d world (.ok loan) d' work)
    (hstate : d'.state = .ready ∨ d'.state = .absent) : d'.settled? = some (.ok loan) := by
  have hcached := cached_of_acquired_ok ha
  cases loan with
  | some loan => exact settled_of_cached hcached
  | none =>
    refine settled_of_state_absent hcached (hstate.resolve_left fun hready => ?_)
    cases ha with
    | settled h => simp [settled?, hcached, hready] at h
    | unfetched h hs =>
      rcases hs with rfl | rfl | ⟨rfl, -⟩ | ⟨rfl, -⟩ <;> cases hready
    | undecoded h hs =>
      rcases hs with rfl | rfl <;> cases hready

end Descriptor

namespace Manager

open Act

variable {m m' : Manager} {world : World} {key : Key} {id : Nat} {d d' : Descriptor}
  {events : List Event} {name : String} {lon lat : Double} {choice : Option String}
  {r : TileReport}

-- ---------------------------------------------------------------------------
-- The descriptor of a tile
-- ---------------------------------------------------------------------------

/-- The key leads to the descriptor as it was, or one was made for it that nothing is known
about yet; this and the making of its fetcher are all that is new. -/
inductive Registered (key : Key) (m : Manager) : Manager → Nat → Descriptor → List Event → Prop
  | found {id : Nat} {d : Descriptor} (hid : m.find? key = some id) (hd : m.pool[id]? = some d) :
      Registered key m m id d []
  | made {d : Descriptor} (hnone : m.find? key = none) (hunknown : d.state = .unknown)
      (hcached : d.cached = none) :
      Registered key m { m with
        pool := m.pool ++ [d], tracked := m.tracked ++ [(key, m.pool.length)]
        made := m.made ++ [key.1] } m.pool.length d [.fetcherMade key.1]

theorem newDescriptor_unknown (m : Manager) (source : Source) (tile : String) :
    (m.newDescriptor source tile).state = .unknown ∧
      (m.newDescriptor source tile).cached = none := by
  unfold newDescriptor
  dsimp only
  split <;> exact ⟨rfl, rfl⟩

theorem find_append (h : m.find? key = none) (pool : List Descriptor) (made : List String) :
    find? { m with pool, tracked := m.tracked ++ [(key, id)], made } key = some id := by
  rw [find?] at h ⊢
  simp [List.lookup_append, h]

theorem Registered.find (h : Registered key m m' id d events) :
    m'.find? key = some id ∧ m'.pool[id]? = some d ∧ m'.settings = m.settings := by
  cases h with
  | found hid hd => exact ⟨hid, hd, rfl⟩
  | made hnone => exact ⟨find_append hnone _ _, by simp, rfl⟩

/-- A request for a key that is tracked finds its descriptor in every world. -/
theorem run_descriptorFor_tracked (hkey : keyAt name lon lat = some key)
    (hid : m.find? key = some id) (world : World) :
    (descriptorFor name lon lat).run (m, world) = (.ok id, m, world) := by
  obtain ⟨source, -, index, -, hrun⟩ := run_descriptorFor_accepted hkey m world
  rw [hrun, hid]

theorem registered_descriptorFor (h : Consistent m) (hkey : keyAt name lon lat = some key) :
    ∃ m' id d events, Registered key m m' id d events ∧ Fits m' key d ∧
      ∀ world, (descriptorFor name lon lat).run (m, world) =
        (.ok id, m', { world with events := events ++ world.events }) := by
  obtain ⟨source, hsource, rfl, index, hindex, rfl⟩ := keyAt_eq_some.mp hkey
  cases hid : m.find? (source.id, source.fileName index) with
  | some id =>
    obtain ⟨d, hd, hfits⟩ := h.fits _ id (mem_of_find hid)
    exact ⟨m, id, d, [], .found hid hd, hfits, run_descriptorFor_tracked hkey hid⟩
  | none =>
    obtain ⟨hunknown, hcached⟩ := newDescriptor_unknown m source (source.fileName index)
    refine ⟨_, _, _, _, .made hid hunknown hcached, ?_, fun world => ?_⟩
    · exact ⟨⟨source, hsource, index, rfl, newDescriptor_copy m source _⟩,
        newDescriptor_remoteAllowed m source _⟩
    · rw [run_descriptorFor_of_mem hsource, tileName_of_index hindex]
      dsimp only
      rw [hid]
      exact run_track m source _ world

theorem report_of_fits (h : Fits m key d) (name : String) (tile : Option Tile) :
    ∃ r, report name d tile = .ok r := by
  obtain ⟨_, -, _, _, -, -, -, harchive⟩ := h.keptAt
  simp [report, harchive, bind, Except.bind, pure, Except.pure]

theorem effective_of_keyAt (h : keyAt name lon lat = some key) : name = key.1 := by
  obtain ⟨source, -, rfl, index, -, rfl⟩ := keyAt_eq_some.mp h
  rfl

/-- The status is the report of the descriptor that is found, as it is. -/
theorem run_tileStatus {world' : World} (hkey : keyAt (m.effective choice) lon lat = some key)
    (hrun : (descriptorFor (m.effective choice) lon lat).run (m, world) = (.ok id, m', world'))
    (hd : m'.pool[id]? = some d) : (tileStatus lon lat choice).run (m, world) =
      (report key.1 d (d.cached.map (·.tile)), m', world') := by
  rw [tileStatus, run_bind_of_ok (run_chooseSource m choice world), run_bind_of_ok hrun,
    run_bind, run_descriptor, hd, effective_of_keyAt hkey]
  exact run_ofExcept _ _

-- ---------------------------------------------------------------------------
-- After a tile was asked for
-- ---------------------------------------------------------------------------

/-- Acquiring a tile changes its descriptor alone, which caches what is handed out. -/
theorem acquire_ok {world' : World} {loan : Option Loan} (hd : m.pool[id]? = some d)
    (h : (acquire name id).run (m, world) = (.ok loan, m', world')) :
    ∃ d', m' = { m with pool := m.pool.set id d' } ∧ d'.cached = loan ∧
      (d'.state = .ready ∨ d'.state = .absent → d'.settled? = some (.ok loan)) := by
  have hacquired := Descriptor.acquired_getTile d world
  rw [acquire, run_bind, run_attempt, run_onDescriptor hd] at h
  generalize Descriptor.getTile.run (d, world) = ended at h hacquired
  obtain ⟨result, d', world''⟩ := ended
  cases result with
  | ok given =>
    cases h
    exact ⟨d', rfl, Descriptor.cached_of_acquired_ok hacquired,
      Descriptor.settled_of_acquired_ok hacquired⟩
  | error fault =>
    dsimp only at h
    split at h
    · cases h
    · cases h

/-- A request that is answered leaves a descriptor whose report is the answer, and whose
answer is settled if the tile is ready or absent. -/
theorem getTile_ok {world' : World} (hm : Consistent m)
    (hkey : keyAt (m.effective choice) lon lat = some key)
    (h : (getTile lon lat choice).run (m, world) = (.ok r, m', world')) :
    m'.settings = m.settings ∧ ∃ id d, m'.find? key = some id ∧ m'.pool[id]? = some d ∧
      report key.1 d (d.cached.map (·.tile)) = .ok r ∧
      (d.state = .ready ∨ d.state = .absent → d.settled? = some (.ok d.cached)) := by
  obtain ⟨found, id, d, events, hfound, -, hfind⟩ := registered_descriptorFor hm hkey
  obtain ⟨hid, hd, hsettings⟩ := hfound.find
  rw [getTile, run_bind_of_ok (run_chooseSource m choice world), run_bind_of_ok (hfind world)] at h
  obtain ⟨loan, ⟨m₁, world₁⟩, hacquire, h⟩ := run_bind_ok.mp h
  obtain ⟨d', rfl, hcached, hsettled⟩ := acquire_ok hd hacquire
  have hd' : (found.pool.set id d')[id]? = some d' :=
    List.getElem?_set_self (List.getElem?_eq_some_iff.mp hd).1
  rw [run_bind, run_descriptor, hd'] at h
  have hreport := (run_ofExcept _ _).symm.trans h
  rw [Prod.mk.injEq, Prod.mk.injEq] at hreport
  obtain ⟨hr, rfl, -⟩ := hreport
  rw [effective_of_keyAt hkey] at hr
  exact ⟨hsettings, id, d', hid, hd', hcached ▸ hr, hcached ▸ hsettled⟩

theorem run_acquire_settled {loan : Option Loan} (hd : m.pool[id]? = some d)
    (hs : d.settled? = some (.ok loan)) (world : World) :
    (acquire name id).run (m, world) = (.ok loan, m, world) := by
  obtain ⟨hlt, hget⟩ := List.getElem?_eq_some_iff.mp hd
  have htry : (onDescriptor id Descriptor.getTile).run (m, world) = (.ok loan, m, world) := by
    rw [run_onDescriptor hd, Descriptor.run_getTile_settled hs]
    simp [← hget]
  rw [acquire, run_bind, run_attempt, htry]
  rfl

theorem run_getTile_settled (hkey : keyAt (m.effective choice) lon lat = some key)
    (hid : m.find? key = some id) (hd : m.pool[id]? = some d)
    (hs : d.settled? = some (.ok d.cached)) (world : World) :
    (getTile lon lat choice).run (m, world) =
      (report key.1 d (d.cached.map (·.tile)), m, world) := by
  rw [getTile, run_bind_of_ok (run_chooseSource m choice world),
    run_bind_of_ok (run_descriptorFor_tracked hkey hid world),
    run_bind_of_ok (run_acquire_settled hd hs world), run_bind, run_descriptor, hd,
    effective_of_keyAt hkey]
  exact run_ofExcept _ _

theorem state_report {tile : Option Tile} (h : report name d tile = .ok r) : r.state = d.state := by
  rw [report] at h
  cases harchive : d.copy.archive with
  | error fault => simp [harchive, bind, Except.bind] at h
  | ok archive =>
    simp only [harchive, bind, Except.bind, pure, Except.pure] at h
    cases h
    rfl

-- ---------------------------------------------------------------------------
-- Reachable states
-- ---------------------------------------------------------------------------

/-- In every state that requests and releases lead to, the status of a tile is the report of
its descriptor, whatever the world, and leaves at most one descriptor more that nothing is
known about; the tool says so in every form. After a request that was answered, the status
at every point of the tile is that answer, and so is that of another request if the tile is
ready or absent, which then changes nothing. -/
theorem status_snapshot (settings : Settings) (world : World) (steps : List Step)
    {choice : Option String} {lon lat : Double} {key : Key} :
    let m := (afterSteps steps { manager := ofSettings settings, world }).manager
    keyAt (m.effective choice) lon lat = some key →
      (∃ m' id d events r, Registered key m m' id d events ∧
        report key.1 d (d.cached.map (·.tile)) = .ok r ∧
        ∀ world : World, let after := (m', { world with events := events ++ world.events })
          (tileStatus lon lat choice).run (m, world) = (.ok r, after) ∧
          ∀ mode, ∃ text, (Response.tile (Tool.tileResponse r lon lat
              s!"Tile {r.tileName} is {r.state.text}")).format mode = .ok text ∧
            ((Tool.tileInfo lon lat choice).call mode).run (m, world) = (.ok text, after)) ∧
      ∀ world r m' world', (getTile lon lat choice).run (m, world) = (.ok r, m', world') →
        ∀ lon lat choice, keyAt (m.effective choice) lon lat = some key → ∀ world,
          (tileStatus lon lat choice).run (m', world) = (.ok r, m', world) ∧
          (r.state = .ready ∨ r.state = .absent →
            (getTile lon lat choice).run (m', world) = (.ok r, m', world)) := by
  intro m hkey
  have hm : Consistent m := (coherent_afterSteps settings world steps).1.consistent
  refine ⟨?_, ?_⟩
  · obtain ⟨m', id, d, events, hregistered, hfits, hfind⟩ := registered_descriptorFor hm hkey
    obtain ⟨r, hr⟩ := report_of_fits hfits key.1 (d.cached.map (·.tile))
    have hstatus (world : World) : (tileStatus lon lat choice).run (m, world) =
        (.ok r, m', { world with events := events ++ world.events }) := by
      rw [run_tileStatus hkey (hfind world) hregistered.find.2.1, hr]
    refine ⟨m', id, d, events, r, hregistered, hr, fun world => ⟨hstatus world, fun mode => ?_⟩⟩
    obtain ⟨text, htext⟩ := Tool.format_tileResponse r lon lat
      s!"Tile {r.tileName} is {r.state.text}" mode
    exact ⟨text, htext, Tool.run_call_of_ok (run_bind_of_ok (hstatus world)) htext⟩
  · intro world r m' world' hget lon lat choice hkey' world
    obtain ⟨hsettings, id, d, hid, hd, hr, hsettled⟩ := getTile_ok hm hkey hget
    have hthere : keyAt (m'.effective choice) lon lat = some key := by
      rwa [effective, hsettings]
    refine ⟨?_, fun hstate => ?_⟩
    · rw [run_tileStatus hthere (run_descriptorFor_tracked hthere hid world) hd, hr]
    · rw [state_report hr] at hstate
      rw [run_getTile_settled hthere hid hd (hsettled hstate), hr]

def provided : World where
  files := ⟨[(["dem"], .directory), (["dem", "srtm3"], .directory),
    (["dem", "srtm3", "srtm_38_03.tif"], .file [1])]⟩
  decoder := .ofRasters fun _ => some ⟨.int16, [[250]], none, ⟨1, 0, 0, 0, -1, 0⟩, none⟩

/-- The status at another point of a tile that was read from its file. -/
theorem status_snapshot_provided : ∃ r m world,
    (getTile 7 46 none).run (ofSettings unreachable, provided) = (.ok r, m, world) ∧
      r.state = .ready ∧
      (tileStatus 8 47 (some "srtm3")).run (m, world) = (.ok r, m, world) ∧
      (getTile 8 47 (some "srtm3")).run (m, world) = (.ok r, m, world) := by
  have hready : ((getTile 7 46 none).run (ofSettings unreachable, provided)).1.toOption.any
      (·.state = .ready) := by
    decide +kernel
  have hkey : keyAt "srtm3" 7 46 = some ("srtm3", "srtm_38_03.tif") := by decide +kernel
  have hkey' : keyAt "srtm3" 8 47 = some ("srtm3", "srtm_38_03.tif") := by decide +kernel
  obtain ⟨-, hsame⟩ := @status_snapshot unreachable provided [] none 7 46 _ hkey
  rcases hrun : (getTile 7 46 none).run (ofSettings unreachable, provided) with
    ⟨fault | r, m, world⟩
  · rw [hrun] at hready
    cases hready
  · rw [hrun] at hready
    have hstate : r.state = .ready := by simpa [Except.toOption] using hready
    obtain ⟨hstatus, hagain⟩ := hsame provided r m world hrun 8 47 (some "srtm3") hkey' world
    exact ⟨r, m, world, rfl, hstate, hstatus, hagain (.inl hstate)⟩

end Manager

end TerrainTiles
