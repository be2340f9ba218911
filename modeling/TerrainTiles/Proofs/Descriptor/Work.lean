import TerrainTiles.Proofs.Descriptor.Lifecycle

/-!
# The work of a descriptor

How much is fetched and decoded along a history. A call of `getTile` fetches
once at most and then decodes once at most (`work_acquired`), neither while a
tile is cached, and what it yields stays cached until it is disposed of
(`dispose_mem_of_yields`). It fetches the archive exactly if that is due and
fetches are enabled (`mem_work_getTile_iff`), so nothing is fetched once they are
disabled (`not_isFetch_of_disabled`). The states absent and fatal are final
(`state_afterSteps_of_final`). `economy_afterSteps` puts these together.
-/

namespace TerrainTiles.Descriptor

open Act

def Step.work (step : Step) (s : Descriptor × World) : List Event := s.2.work (step.after s).2

def Lends (s : Descriptor × World) : Prop := ∃ loan, (getTile.run s).1 = .ok (some loan)

/-- A call of `getTile` would decode, and that would yield a tile. -/
def YieldsTile (s : Descriptor × World) : Prop :=
  (∃ event ∈ (Step.call .getTile).work s, event.isDecode) ∧ Lends s

/-- Acquiring the tile starts with a fetch, if that is possible. -/
def Due (d : Descriptor) (files : FileSystem) : Prop :=
  d.settled? = none ∧ ∃ state, d.probed files = .ok state ∧ (state = .remote ∨ state = .localError)

variable {d d' : Descriptor} {world : World} {s : Descriptor × World} {step : Step} {path : Path}
  {result : Except Fault (Option Loan)} {work : List Event} {loan : Loan}

-- ---------------------------------------------------------------------------
-- One call
-- ---------------------------------------------------------------------------

theorem work_acquired (ha : Acquired d world result d' work) :
    ∃ fetch decode : Option Event, work = fetch.toList ++ decode.toList ∧
      (∀ event ∈ fetch, event.isFetch ∧ d.remoteEnabled) ∧ ∀ event ∈ decode, event.isDecode := by
  cases ha with
  | settled => exact ⟨none, none, rfl, by simp, by simp⟩
  | nameless => exact ⟨none, none, rfl, by simp, by simp⟩
  | unfetched _ _ hfetch => exact ⟨_, none, by simp, hfetch, by simp⟩
  | undecoded _ _ hfetch hdecode => exact ⟨_, _, rfl, hfetch, hdecode⟩
  | @lent _ _ _ decode _ hfetch hdecode =>
    exact ⟨_, some decode, rfl, hfetch, by simpa using hdecode⟩

theorem work_getTile (s : Descriptor × World) :
    ∃ fetch decode : Option Event, (Step.call .getTile).work s = fetch.toList ++ decode.toList ∧
      (∀ event ∈ fetch, event.isFetch ∧ s.1.remoteEnabled) ∧
      ∀ event ∈ decode, event.isDecode :=
  work_acquired (acquired_getTile s.1 s.2)

theorem run_getTile_settled {answer : Except Fault (Option Loan)} (h : d.settled? = some answer)
    (world : World) : getTile.run (d, world) = (answer, d, world) := by
  rw [run_getTile, h]

theorem settled_of_cached (h : d.cached = some loan) : d.settled? = some (.ok (some loan)) := by
  simp [settled?, h]

theorem work_getTile_cached (h : s.1.cached.isSome) : (Step.call .getTile).work s = [] := by
  obtain ⟨d, world⟩ := s
  obtain ⟨loan, hloan⟩ := Option.isSome_iff_exists.mp h
  change world.work (getTile.run (d, world)).2.2 = []
  rw [run_getTile_settled (settled_of_cached hloan), world.work_self]

-- ---------------------------------------------------------------------------
-- The fetch of a call
-- ---------------------------------------------------------------------------

theorem mem_work_acquireRemote (hf : d.fetcher.isSome) (ha : d.copy.archive = .ok path)
    (world : World) : .fetchBegun path ∈ world.work (acquireRemote.run (d, world)).2.2 := by
  obtain ⟨fetcher, hfetcher⟩ := Option.isSome_iff_exists.mp hf
  obtain ⟨result, fetcher', left, hrun, -, hrecords, -, -⟩ := fetchRemote_frame d world
  have hleft : .fetchBegun path ∈ world.work left := by
    have hwork := work_fetchRemote_named hfetcher ha world
    rw [hrun] at hwork
    simp [show world.work left = [.fetchBegun path] from hwork]
  rw [run_acquireRemote, hrun]
  rcases result with fault | value | _ | _ | _
  · exact hleft
  · -- What is decoded after the fetch is recorded after it.
    have hafter := steady_finish { d with fetcher := fetcher', state := .onDisk } (some value) left
    rw [World.work_trans hrecords.suffix hafter.records.suffix, List.mem_append]
    exact .inl hleft
  · exact hleft
  · exact hleft
  · exact hleft

theorem due_of_mem_work (h : .fetchBegun path ∈ world.work (getTile.run (d, world)).2.2) :
    d.Due world.files := by
  rw [run_getTile] at h
  cases hs : d.settled? with
  | some answer => simp [hs] at h
  | none =>
    refine ⟨hs, ?_⟩
    cases hp : d.probed world.files with
    | error fault => simp [hs, hp] at h
    | ok state =>
      refine ⟨state, rfl, ?_⟩
      refine Classical.byContradiction fun hstate => ?_
      simp only [hs, hp, if_neg hstate] at h
      obtain ⟨_, _, left, hrun, hreading, -⟩ := run_finish { d with state } none world
      rw [hrun] at h
      exact absurd (hreading.events.of_mem_work h).1 (by simp [Event.isFetch])

theorem mem_work_getTile_iff (d : Descriptor) (world : World) (path : Path) :
    .fetchBegun path ∈ world.work (getTile.run (d, world)).2.2 ↔
      d.Due world.files ∧ d.remoteEnabled ∧ d.copy.archive = .ok path := by
  constructor
  · intro h
    have hdue := due_of_mem_work h
    obtain ⟨henabled, _, hpath, ⟨⟩⟩ := ((steady_getTile (d, world)).records.of_mem_work h).1 rfl
    exact ⟨hdue, henabled, hpath⟩
  · rintro ⟨⟨hs, state, hp, hstate⟩, henabled, ha⟩
    have hf : d.fetcher.isSome := by
      simp only [remoteEnabled, Bool.and_eq_true] at henabled
      exact henabled.2
    rw [run_getTile, hs, hp]
    simp only [if_pos hstate, henabled, if_true]
    exact mem_work_acquireRemote (d := { d with state }) hf ha world

theorem run_getTile_fetched {fetcher fetcher' : Fetcher} {left : World} (hdue : d.Due world.files)
    (henabled : d.remoteEnabled) (hf : d.fetcher = some fetcher) (ha : d.copy.archive = .ok path)
    (hasked : asked fetcher path world = (.ok (.success path), fetcher', left)) :
    getTile.run (d, world) =
      (finish (some path)).run ({ d with fetcher := some fetcher', state := .onDisk }, left) := by
  obtain ⟨hs, state, hp, hstate⟩ := hdue
  have hfetch : fetchRemote.run ({ d with state }, world) =
      (.ok (.success path), { d with state, fetcher := some fetcher' }, left) := by
    rw [run_fetchRemote (d := { d with state }) hf ha, hasked]
  rw [run_getTile, hs, hp]
  dsimp only
  rw [if_pos hstate, if_pos henabled, run_acquireRemote, hfetch]

-- ---------------------------------------------------------------------------
-- Tiles that were yielded
-- ---------------------------------------------------------------------------

theorem cached_of_acquired (ha : Acquired d world (.ok (some loan)) d' work) (hw : work ≠ []) :
    d'.cached.isSome := by
  cases ha with
  | settled => exact absurd rfl hw
  | unfetched _ _ _ hnone => exact absurd rfl (hnone loan)
  | lent => rfl

theorem cached_of_yields (h : YieldsTile s) :
    ((Step.call .getTile).after s).1.cached.isSome := by
  obtain ⟨d, world⟩ := s
  obtain ⟨⟨event, hevent, -⟩, loan, hresult⟩ := h
  have ha : Acquired d world (getTile.run (d, world)).1 (getTile.run (d, world)).2.1
      (world.work (getTile.run (d, world)).2.2) := acquired_getTile d world
  rw [hresult] at ha
  exact cached_of_acquired ha (List.ne_nil_of_mem hevent)

theorem cached_step (h : s.1.cached.isSome) (hne : step ≠ .call .dispose) :
    (step.after s).1.cached.isSome := by
  obtain ⟨d, world⟩ := s
  rcases step with (_ | _ | _) | change
  · obtain ⟨loan, hloan⟩ := Option.isSome_iff_exists.mp h
    change (getTile.run (d, world)).2.1.cached.isSome
    rw [run_getTile_settled (settled_of_cached hloan)]
    exact h
  · exact absurd rfl hne
  · exact h
  · exact h

theorem cached_afterSteps {steps : List Step} (hd : .call .dispose ∉ steps)
    (h : s.1.cached.isSome) : (afterSteps steps s).1.cached.isSome := by
  induction steps generalizing s with
  | nil => exact h
  | cons step rest ih =>
    rw [List.mem_cons, not_or] at hd
    exact ih hd.2 (cached_step h (Ne.symm hd.1))

theorem dispose_mem_of_yields {middle : List Step} (h : YieldsTile s)
    (h' : YieldsTile (afterSteps (.call .getTile :: middle) s)) : .call .dispose ∈ middle := by
  refine Classical.byContradiction fun hd => ?_
  have hcached : (afterSteps middle ((Step.call .getTile).after s)).1.cached.isSome :=
    cached_afterSteps hd (cached_of_yields h)
  obtain ⟨⟨event, hevent, -⟩, -⟩ := h'
  rw [show (Step.call .getTile).work (afterSteps (.call .getTile :: middle) s) = [] from
    work_getTile_cached hcached] at hevent
  cases hevent

-- ---------------------------------------------------------------------------
-- Disabled fetches
-- ---------------------------------------------------------------------------

theorem remoteAllowed_step (s : Descriptor × World) (step : Step)
    (h : s.1.remoteAllowed = false) : (step.after s).1.remoteAllowed = false := by
  obtain ⟨d, world⟩ := s
  rcases step with (_ | _ | _) | change
  · exact (steady_getTile (d, world)).remoteAllowed.trans h
  · exact (steady_dispose (d, world)).remoteAllowed.trans h
  · rfl
  · exact h

theorem remoteAllowed_afterSteps {steps : List Step} (h : .call .disableRemote ∈ steps)
    (s : Descriptor × World) : (afterSteps steps s).1.remoteAllowed = false := by
  obtain ⟨before, later, rfl⟩ := List.append_of_mem h
  rw [afterSteps_append]
  exact invariant_afterSteps (P := fun s => s.1.remoteAllowed = false) remoteAllowed_step rfl later

theorem not_isFetch_of_disabled (h : s.1.remoteAllowed = false) (step : Step) :
    ∀ event ∈ step.work s, event.isFetch = false := by
  have hpermits : World.Records (Permits s.1) s.2 (step.after s).2 := by
    obtain ⟨d, world⟩ := s
    rcases step with (_ | _ | _) | change
    · exact (steady_getTile (d, world)).records
    · exact (steady_dispose (d, world)).records
    · exact World.records_of_eq rfl
    · exact World.records_of_eq rfl
  intro event he
  refine Bool.eq_false_iff.mpr fun hfetch => ?_
  have henabled := ((hpermits.of_mem_work he).1 hfetch).1
  simp [remoteEnabled, h] at henabled

-- ---------------------------------------------------------------------------
-- Final states
-- ---------------------------------------------------------------------------

theorem state_afterSteps_of_final (h : Sound s.1) (hf : s.1.state = .absent ∨ s.1.state = .fatal)
    (steps : List Step) : (afterSteps steps s).1.state = s.1.state := by
  refine (invariant_afterSteps (P := fun t => Sound t.1 ∧ t.1.state = s.1.state) ?_
    ⟨h, rfl⟩ steps).2
  rintro t step ⟨ht, hstate⟩
  have hnothing : reached step t.1.state = [] := by
    rw [hstate]
    rcases hf with hf | hf <;> rw [hf] <;> rcases step with (_ | _ | _) | _ <;> rfl
  refine ⟨sound_step t step ht, ?_⟩
  rcases reached_step ht step with heq | hmem
  · exact heq.trans hstate
  · simp [hnothing] at hmem

theorem Sound.cached_eq_none (h : Sound d) (hs : d.state ≠ .ready) : d.cached = none := by
  have := h.cached
  simpa [hs] using this

theorem Sound.settled_eq_none (h : Sound d)
    (hs : d.state = .unknown ∨ d.state = .remote ∨ d.state = .localError) : d.settled? = none := by
  have hc : d.cached = none := h.cached_eq_none (by rcases hs with hs | hs | hs <;> simp [hs])
  rcases hs with hs | hs | hs <;> simp [settled?, hc, hs]

theorem settled_of_absent (h : Sound d) (hs : d.state = .absent) :
    d.settled? = some (.ok none) := by
  simp [settled?, h.cached_eq_none (by simp [hs]), hs]

theorem settled_of_fatal (h : Sound d) (hs : d.state = .fatal) :
    d.settled? = some (.error (d.unreachable none)) := by
  simp [settled?, h.cached_eq_none (by simp [hs]), hs]

-- ---------------------------------------------------------------------------
-- Histories
-- ---------------------------------------------------------------------------

/-- Along every history, with any fetcher and any decoder: a call of `getTile`
makes one fetch at most, followed by one decode at most, and none of either
while a tile is cached; between two decodes that yield a tile it was disposed of;
no step fetches once fetches were disabled; and once the state is absent or
fatal it stays so, and every call gives the same answer in any world without
touching it. -/
theorem economy_afterSteps (copy : LocalCopy) (fetcher : Option Fetcher) (world : World)
    (steps : List Step) :
    let s := afterSteps steps (fresh copy fetcher, world)
    (∃ fetch decode : Option Event,
      (Step.call .getTile).work s = fetch.toList ++ decode.toList ∧
        (∀ event ∈ fetch, event.isFetch) ∧ ∀ event ∈ decode, event.isDecode) ∧
      (s.1.cached.isSome → (Step.call .getTile).work s = []) ∧
      (∀ middle, YieldsTile s → YieldsTile (afterSteps (.call .getTile :: middle) s) →
        .call .dispose ∈ middle) ∧
      (.call .disableRemote ∈ steps →
        ∀ step : Step, ∀ event ∈ step.work s, event.isFetch = false) ∧
      ∀ later, let d := (afterSteps later s).1
        (s.1.state = .absent → d.state = .absent ∧
          ∀ world', getTile.run (d, world') = (.ok none, d, world')) ∧
        (s.1.state = .fatal → d.state = .fatal ∧
          ∀ world', getTile.run (d, world') = (.error (d.unreachable none), d, world')) := by
  intro s
  have hsound : Sound s.1 := sound_afterSteps (sound_fresh copy fetcher) steps
  refine ⟨?_, work_getTile_cached, fun _ => dispose_mem_of_yields, ?_, ?_⟩
  · obtain ⟨fetch, decode, hwork, hfetch, hdecode⟩ := work_getTile s
    exact ⟨fetch, decode, hwork, fun event he => (hfetch event he).1, hdecode⟩
  · exact fun hd => not_isFetch_of_disabled (remoteAllowed_afterSteps hd _)
  · intro later d
    have hd : Sound d := sound_afterSteps hsound later
    refine ⟨fun habsent => ?_, fun hfatal => ?_⟩
    · have hstate : d.state = .absent :=
        (state_afterSteps_of_final hsound (.inl habsent) later).trans habsent
      exact ⟨hstate, run_getTile_settled (settled_of_absent hd hstate)⟩
    · have hstate : d.state = .fatal :=
        (state_afterSteps_of_final hsound (.inr hfatal) later).trans hfatal
      exact ⟨hstate, run_getTile_settled (settled_of_fatal hd hstate)⟩

end TerrainTiles.Descriptor
