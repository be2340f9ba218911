import TerrainTiles.Proofs.Manager.Interleaving

/-!
# The fetchers in the pool

Every fetcher in the pool was made by the settings for a source, and is used for
nothing but fetching and closing. So what lasts of those that are made holds of all
in the pool, after every step of any number of requests (`furnished_afterSteps`).
-/

namespace TerrainTiles.Manager

open Act

variable {P : Fetcher → Prop} {settings : Settings} {m : Manager} {world : World} {id : Nat}
  {d d' : Descriptor} {s : System}

structure Furnished (P : Fetcher → Prop) (m : Manager) : Prop where
  made : ∀ source n fetcher, m.settings.makeFetcher source n = some fetcher → P fetcher
  pool : ∀ d ∈ m.pool, ∀ fetcher, d.fetcher = some fetcher → P fetcher

theorem furnished_ofSettings
    (h : ∀ source n fetcher, settings.makeFetcher source n = some fetcher → P fetcher) :
    Furnished P (ofSettings settings) := ⟨h, by simp [ofSettings]⟩

theorem furnished_set (hP : Fetcher.Lasting P) (h : Furnished P m) (hd : m.pool[id]? = some d)
    (halike : Descriptor.Alike d d') : Furnished P { m with pool := m.pool.set id d' } := by
  refine ⟨h.made, fun other hother => ?_⟩
  rcases List.mem_or_eq_of_mem_set hother with hmem | rfl
  · exact h.pool other hmem
  · exact halike.lasting hP (h.pool d (List.mem_of_getElem? hd))

theorem furnished_track (h : Furnished P m) (source : Source) (tile : String) (world : World) :
    Furnished P ((track source tile).run (m, world)).2.1 := by
  rw [run_track]
  refine ⟨h.made, fun d hd => ?_⟩
  rcases List.mem_append.mp hd with hmem | hnew
  · exact h.pool d hmem
  · obtain rfl := List.mem_singleton.mp hnew
    unfold newDescriptor
    dsimp only
    split
    · exact h.made _ _
    · exact h.made _ _

theorem furnished_descriptorFor (h : Furnished P m) (name : String) (lon lat : Double)
    (world : World) : Furnished P ((descriptorFor name lon lat).run (m, world)).2.1 := by
  rcases run_descriptorFor m name lon lat world with
    ⟨fault, hrun, -⟩ | ⟨source, -, -, index, -, ⟨id, -, hrun⟩ | hrun⟩
  · exact hrun ▸ h
  · exact hrun ▸ h
  · rw [hrun]
    exact furnished_track h source _ world

theorem furnished_markOffline (h : Furnished P m) (name : String) (world : World) :
    Furnished P ((markOffline name).run (m, world)).2.1 := by
  unfold markOffline
  rw [run_modifyOwn]
  dsimp only
  split
  · exact h
  · refine ⟨h.made, fun d hd => ?_⟩
    simp only [disableAt, List.mem_mapIdx] at hd
    obtain ⟨id, hlt, rfl⟩ := hd
    have hbefore := h.pool m.pool[id] (List.getElem_mem hlt)
    split <;> exact hbefore

theorem furnished_disposeAll (hP : Fetcher.Lasting P) (ids : List Nat) (h : Furnished P m)
    (world : World) : Furnished P ((disposeAll ids).run (m, world)).2.1 := by
  induction ids generalizing m world with
  | nil => exact h
  | cons id rest ih =>
    unfold disposeAll
    cases hd : m.pool[id]? with
    | none => exact run_bind_of_error (run_onDescriptor_missing hd _ world) ▸ h
    | some d =>
      have halike := (Descriptor.steady_dispose (d, world)).alike
      rw [run_bind, run_onDescriptor hd, Descriptor.run_dispose]
      rw [Descriptor.run_dispose] at halike
      exact ih (furnished_set hP h hd halike) _

theorem run_release (m : Manager) (source : Option String) (world : World) :
    ((Manager.release source).run (m, world)).2 =
      ((disposeAll ((m.tracked.filter (Covers source)).map (·.2))).run
        ({ m with tracked := m.tracked.filter fun entry => !Covers source entry }, world)).2 := by
  unfold Manager.release
  rw [run_bind_of_ok (run_untrack_eq m source world), run_bind]
  rcases (disposeAll _).run _ with ⟨fault | _, t⟩ <;> rfl

theorem furnished_release (hP : Fetcher.Lasting P) (h : Furnished P m) (source : Option String)
    (world : World) : Furnished P ((Manager.release source).run (m, world)).2.1 := by
  have huntracked : Furnished P { m with
      tracked := m.tracked.filter fun entry => !Covers source entry } := ⟨h.made, h.pool⟩
  rw [run_release]
  exact furnished_disposeAll hP _ huntracked world

theorem furnished_after (hP : Fetcher.Lasting P) (hcoherent : Coherent s)
    (h : Furnished P s.manager) (step : Step) : Furnished P (step.after s).manager := by
  cases step with
  | find name lon lat => exact furnished_descriptorFor h name lon lat s.world
  | acquire j =>
    rcases acquire_cases hcoherent j with hafter | ⟨_, id, d, -, hd, -, hafter⟩
    · rw [hafter]
      exact h
    · rw [hafter]
      exact furnished_set hP h hd (Descriptor.steady_getTile (d, s.world)).alike
  | mark j =>
    rcases mark_cases s j with ⟨hafter, -⟩ | ⟨name, -, -, hafter⟩
    · rw [hafter]
      exact h
    · rw [hafter]
      exact furnished_markOffline h name s.world
  | release source => exact furnished_release hP h source s.world

theorem furnished_afterSteps (hP : Fetcher.Lasting P)
    (h : ∀ source n fetcher, settings.makeFetcher source n = some fetcher → P fetcher)
    (world : World) (steps : List Step) :
    Furnished P (afterSteps steps { manager := ofSettings settings, world }).manager := by
  refine (invariant_afterSteps (P := fun s => Coherent s ∧ Furnished P s.manager) ?_
    ⟨coherent_start settings world, furnished_ofSettings h⟩ steps).2
  exact fun s step hs => ⟨coherent_after s step hs.1, furnished_after hP hs.1 hs.2 step⟩

end TerrainTiles.Manager
