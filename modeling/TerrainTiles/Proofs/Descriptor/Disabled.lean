import TerrainTiles.Proofs.Descriptor.Reacquire
import TerrainTiles.Proofs.Descriptor.Work

/-!
# Local copies while fetches are disabled

A descriptor that has not looked for a local copy yet, or has a tile cached,
answers from what is there. The states remote and local error call for a fetch
though, and as they are left by a fetch only, a descriptor that is in one of them
when fetches are disabled gives no tile ever again (`Stranded`), also if a good
local copy has come since. `local_tile_lent_iff` says when a local copy is used.
-/

namespace TerrainTiles.Descriptor

open Act

variable {d : Descriptor} {world : World} {s : Descriptor × World}

/-- The tile that the local copy decodes to now, if it does. -/
def localTile? (s : Descriptor × World) : Option Tile := do
  let path ← (s.1.copy.locate s.2.files).toOption.join
  ((decodeFile path).run s).1.toOption.join

-- ---------------------------------------------------------------------------
-- Descriptors that wait for a fetch
-- ---------------------------------------------------------------------------

/-- Only a fetch could lead on, and fetches are disabled. -/
structure Stranded (d : Descriptor) : Prop where
  sound : Sound d
  remoteAllowed : d.remoteAllowed = false
  state : d.state = .remote ∨ d.state = .localError

theorem Stranded.run_getTile (h : Stranded d) (world : World) :
    getTile.run (d, world) = (.ok none, d, world) := by
  have hs : d.settled? = none := h.sound.settled_eq_none (.inr h.state)
  have hp : d.probed world.files = .ok d.state := by
    rcases h.state with hd | hd <;> simp [probed, hd]
  have henabled : d.remoteEnabled = false := by simp [remoteEnabled, h.remoteAllowed]
  rw [Descriptor.run_getTile, hs, hp]
  simp [h.state, henabled]

theorem stranded_step (s : Descriptor × World) (step : Step) (h : Stranded s.1) :
    Stranded (step.after s).1 := by
  refine ⟨sound_step s step h.sound, remoteAllowed_step s step h.remoteAllowed, ?_⟩
  obtain ⟨d, world⟩ := s
  rcases step with (_ | _ | _) | change
  · change (getTile.run (d, world)).2.1.state = _ ∨ (getTile.run (d, world)).2.1.state = _
    rw [h.run_getTile]
    exact h.state
  · change (dispose.run (d, world)).2.1.state = _ ∨ (dispose.run (d, world)).2.1.state = _
    rw [run_dispose]
    have hready : d.state ≠ .ready := by rcases h.state with hd | hd <;> simp_all
    rw [if_neg hready]
    exact h.state
  · exact h.state
  · exact h.state

theorem Stranded.run_getTile_afterSteps (h : Stranded s.1) (later : List Step) :
    (getTile.run (afterSteps later s)).1 = .ok none := by
  have hlater : Stranded (afterSteps later s).1 :=
    invariant_afterSteps (P := fun s => Stranded s.1) stranded_step h later
  exact congrArg Prod.fst (hlater.run_getTile _)

-- ---------------------------------------------------------------------------
-- Descriptors that look for a local copy
-- ---------------------------------------------------------------------------

/-- The end of an acquisition without a fetch lends what the local copy decodes to. -/
theorem lent_finish_iff (d : Descriptor) (state : State) (world : World) :
    (∃ loan, ((finish none).run ({ d with state }, world)).1 = .ok (some loan)) ↔
      (localTile? (d, world)).isSome := by
  have hdecode : ∀ path, ((decodeFile path).run ({ d with state }, world)).1 =
      ((decodeFile path).run (d, world)).1 := by
    intro path
    rw [run_decodeFile_presented, run_decodeFile_presented,
      show ({ d with state } : Descriptor).presented path = d.presented path from rfl]
    cases d.presented path world.files world.decoder.unpacker <;> rfl
  rw [run_finish_eq, show ({ d with state } : Descriptor).chosen none world.files =
    d.copy.locate world.files from rfl]
  unfold localTile?
  rcases d.copy.locate world.files with fault | _ | path
  · simp [Except.toOption]
  · simp [Except.toOption]
  · have hpath := hdecode path
    dsimp only
    revert hpath
    rcases (decodeFile path).run ({ d with state }, world) with ⟨_ | _ | tile, d', left⟩
    all_goals
      intro hpath
      simp [Except.toOption, ← hpath]

theorem lends_unknown_iff (h : Sound d) (hs : d.state = .unknown) (ha : d.remoteAllowed = false)
    (world : World) : Lends (d, world) ↔ (localTile? (d, world)).isSome := by
  unfold Lends
  rw [run_getTile, h.settled_eq_none (.inl hs)]
  rcases hl : d.copy.locate world.files with fault | _ | path
  · simp [probed, hs, LocalCopy.isPresent, hl, localTile?, Except.map, Except.toOption]
  · simp [probed, hs, LocalCopy.isPresent, hl, localTile?, Except.map, Except.toOption,
      remoteEnabled, ha]
  · have hp : d.probed world.files = .ok .onDisk := by
      simp [probed, hs, LocalCopy.isPresent, hl, Except.map]
    rw [hp]
    exact lent_finish_iff d .onDisk world

theorem lends_of_ready (h : Sound d) (hs : d.state = .ready) (world : World) :
    Lends (d, world) := by
  obtain ⟨loan, hloan⟩ := Option.isSome_iff_exists.mp (h.cached.mpr hs)
  exact ⟨loan, congrArg Prod.fst (run_getTile_settled (settled_of_cached hloan) world)⟩

-- ---------------------------------------------------------------------------
-- Histories
-- ---------------------------------------------------------------------------

/-- After a history in which fetches were disabled, where the local copy decodes
to a tile and the state is neither absent nor fatal: a tile is given unless the
descriptor had settled on a fetch, and then none is given ever after. -/
theorem local_tile_lent_iff (copy : LocalCopy) (fetcher : Option Fetcher) (world : World)
    (steps : List Step) (hd : .call .disableRemote ∈ steps) :
    let s := afterSteps steps (fresh copy fetcher, world)
    (localTile? s).isSome → s.1.state ≠ .absent → s.1.state ≠ .fatal →
      (Lends s ↔ s.1.state ≠ .remote ∧ s.1.state ≠ .localError) ∧
        (¬ Lends s → ∀ later, (getTile.run (afterSteps later s)).1 = .ok none) := by
  intro s hlocal habsent hfatal
  have hsound : Sound s.1 := sound_afterSteps (sound_fresh copy fetcher) steps
  have hallowed : s.1.remoteAllowed = false := remoteAllowed_afterSteps hd _
  have hstranded : s.1.state = .remote ∨ s.1.state = .localError → Stranded s.1 :=
    fun hstate => ⟨hsound, hallowed, hstate⟩
  have hlends : Lends s ↔ s.1.state ≠ .remote ∧ s.1.state ≠ .localError := by
    constructor
    · rintro ⟨loan, hloan⟩
      rw [← not_or]
      intro hstate
      have hnone := (hstranded hstate).run_getTile_afterSteps []
      exact absurd (hloan.symm.trans hnone) (by simp)
    · rintro ⟨hremote, herror⟩
      cases hstate : s.1.state with
      | unknown => exact (lends_unknown_iff hsound hstate hallowed s.2).mpr hlocal
      | ready => exact lends_of_ready hsound hstate s.2
      | onDisk => exact absurd hstate hsound.state
      | remote => exact absurd hstate hremote
      | localError => exact absurd hstate herror
      | absent => exact absurd hstate habsent
      | fatal => exact absurd hstate hfatal
  refine ⟨hlends, fun hnot => (hstranded ?_).run_getTile_afterSteps⟩
  rwa [hlends, ← not_or, Classical.not_not] at hnot

/-- A tile that was fetched, decoded and disposed of comes again. -/
theorem local_tile_lent_restored :
    let steps : List Step := [.call .getTile, .call .dispose, .call .disableRemote]
    let s := afterSteps steps (restored none)
    .call .disableRemote ∈ steps ∧ (localTile? s).isSome ∧ s.1.state ≠ .absent ∧
      s.1.state ≠ .fatal ∧ Lends s := by
  intro steps s
  have hd : Step.call .disableRemote ∈ steps := by simp [steps]
  have hlocal : (localTile? s).isSome := by decide +kernel
  have hstate : s.1.state = .unknown := by decide +kernel
  have habsent : s.1.state ≠ .absent := by simp [hstate]
  have hfatal : s.1.state ≠ .fatal := by simp [hstate]
  refine ⟨hd, hlocal, habsent, hfatal, ?_⟩
  refine (local_tile_lent_iff (restored none).1.copy (restored none).1.fetcher (restored none).2
    steps hd hlocal habsent hfatal).1.mpr ?_
  change s.1.state ≠ .remote ∧ s.1.state ≠ .localError
  simp [hstate]

/-- A file that comes after a call found none is not looked at. -/
theorem local_tile_ignored :
    let steps : List Step := [.call .disableRemote, .call .getTile,
      .outside fun files => files.set ["dem", "t.tif"] (.file [1])]
    let s := afterSteps steps (restored none)
    .call .disableRemote ∈ steps ∧ (localTile? s).isSome ∧ s.1.state ≠ .absent ∧
      s.1.state ≠ .fatal ∧ ¬ Lends s := by
  intro steps s
  have hstate : s.1.state = .remote := by decide +kernel
  have hnone : ((getTile.run s).1.toOption.join).isNone := by decide +kernel
  refine ⟨by simp [steps], by decide +kernel, by simp [hstate], by simp [hstate], ?_⟩
  rintro ⟨loan, hloan⟩
  rw [hloan] at hnone
  cases hnone

end TerrainTiles.Descriptor
