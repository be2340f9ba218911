import TerrainTiles.Proofs.Descriptor.Lifecycle
import TerrainTiles.Proofs.Manager.Interleaving

/-!
# What the cached tiles have in common

Tiles come from the decoder and nowhere else, and are not changed while they are cached.
So what holds of every tile that the decoder makes holds of all tiles in the pool, after
every step of any number of requests (`stocked_afterSteps`) and after a call
(`Stocked.call`).
-/

namespace TerrainTiles.Manager

open Act

variable {decode : Reader} {P : Tile → Prop} {m : Manager} {world : World} {id : Nat}
  {d : Descriptor}

def Makes (decode : Reader) (P : Tile → Prop) : Prop :=
  ∀ data name tile, decode data name = .ok (some tile) → P tile

structure Stocked (decode : Reader) (P : Tile → Prop) (s : Manager × World) : Prop where
  decoder : s.2.decoder = .deterministic decode
  cached : ∀ d ∈ s.1.pool, ∀ loan, d.cached = some loan → P loan.tile

-- ---------------------------------------------------------------------------
-- Descriptors
-- ---------------------------------------------------------------------------

theorem Stocked.onDescriptor {α : Type} {act : Act Descriptor α}
    (hact : ∀ d world, world.decoder = .deterministic decode →
      (∀ loan, d.cached = some loan → P loan.tile) →
      (act.run (d, world)).2.2.decoder = .deterministic decode ∧
        ∀ loan, (act.run (d, world)).2.1.cached = some loan → P loan.tile) (id : Nat) :
    (onDescriptor id act).Preserves (Stocked decode P) := by
  rintro ⟨m, world⟩ h
  cases hd : m.pool[id]? with
  | none =>
    rw [run_onDescriptor_missing hd]
    exact h
  | some d =>
    obtain ⟨hdecoder, hcached⟩ := hact d world h.decoder (h.cached d (List.mem_of_getElem? hd))
    rw [run_onDescriptor hd]
    refine ⟨hdecoder, fun d' hd' => ?_⟩
    rcases List.mem_or_eq_of_mem_set hd' with hold | rfl
    · exact h.cached d' hold
    · exact hcached

theorem stocked_getTile (hmakes : Makes decode P) (id : Nat) :
    (Manager.onDescriptor id Descriptor.getTile).Preserves (Stocked decode P) := by
  refine Stocked.onDescriptor (fun d world hdecoder hcached => ?_) id
  refine ⟨(Descriptor.steady_getTile (d, world)).decoder _ hdecoder, ?_⟩
  exact Descriptor.cached_acquired hmakes hdecoder hcached (Descriptor.acquired_getTile d world)

theorem stocked_dispose (id : Nat) :
    (Manager.onDescriptor id Descriptor.dispose).Preserves (Stocked decode P) := by
  refine Stocked.onDescriptor (fun d world hdecoder _ => ?_) id
  refine ⟨(Descriptor.steady_dispose (d, world)).decoder _ hdecoder, ?_⟩
  rw [Descriptor.run_dispose]
  simp

-- ---------------------------------------------------------------------------
-- Steps
-- ---------------------------------------------------------------------------

theorem stocked_descriptorFor (name : String) (lon lat : Double) :
    (descriptorFor name lon lat).Preserves (Stocked decode P) := by
  rintro ⟨m, world⟩ h
  rcases run_descriptorFor m name lon lat world with
    ⟨fault, hrun, -⟩ | ⟨source, -, -, index, -, ⟨id, -, hrun⟩ | hrun⟩
  · exact hrun ▸ h
  · exact hrun ▸ h
  · rw [hrun, run_track]
    refine ⟨h.decoder, fun d hd => ?_⟩
    rcases List.mem_append.mp hd with hold | hnew
    · exact h.cached d hold
    · have hnone : (m.newDescriptor source (source.fileName index)).cached = none := by
        unfold newDescriptor
        dsimp only
        split <;> rfl
      rw [List.mem_singleton.mp hnew, hnone]
      simp

theorem stocked_markOffline (name : String) : (markOffline name).Preserves (Stocked decode P) := by
  rintro ⟨m, world⟩ h
  unfold markOffline
  rw [run_modifyOwn]
  dsimp only
  split
  · exact h
  · refine ⟨h.decoder, fun d hd => ?_⟩
    simp only [disableAt, List.mem_mapIdx] at hd
    obtain ⟨id, hlt, rfl⟩ := hd
    have hbefore := h.cached m.pool[id] (List.getElem_mem hlt)
    split <;> exact hbefore

theorem stocked_disposeAll (ids : List Nat) : (disposeAll ids).Preserves (Stocked decode P) := by
  induction ids with
  | nil => exact fun _ h => h
  | cons id rest ih => exact .bind (stocked_dispose id) fun _ => ih

theorem stocked_release (source : Option String) :
    (release source).Preserves (Stocked decode P) := by
  have huntrack : (untrack source).Preserves (Stocked decode P) := by
    rintro ⟨m, world⟩ h
    rw [run_untrack_eq]
    exact ⟨h.decoder, h.cached⟩
  exact .bind huntrack fun ids => .bind (stocked_disposeAll ids) fun _ _ h => h

theorem stocked_after (hmakes : Makes decode P) (s : System) (step : Step)
    (h : Stocked decode P (s.manager, s.world)) :
    Stocked decode P ((step.after s).manager, (step.after s).world) := by
  cases step with
  | find name lon lat => exact stocked_descriptorFor name lon lat _ h
  | acquire i =>
    simp only [Step.after]
    split
    · next source id _ => exact stocked_getTile hmakes id _ h
    · exact h
  | mark i =>
    simp only [Step.after]
    split
    · next source _ => exact stocked_markOffline source _ h
    · exact h
  | release source => exact stocked_release source _ h

theorem stocked_afterSteps (hmakes : Makes decode P) {s : System}
    (h : Stocked decode P (s.manager, s.world)) (steps : List Step) :
    Stocked decode P ((afterSteps steps s).manager, (afterSteps steps s).world) :=
  invariant_afterSteps (P := fun s => Stocked decode P (s.manager, s.world))
    (stocked_after hmakes) h steps

theorem Stocked.call (h : Stocked decode P (m, world)) (hmakes : Makes decode P) (call : Call) :
    Stocked decode P (call.run (m, world)).2 := by
  have hcall := run_eq_afterSteps call ⟨m, world, []⟩
  rw [hcall]
  exact stocked_afterSteps (s := ⟨m, world, []⟩) hmakes h _

theorem stocked_start (settings : Settings) (h : world.decoder = .deterministic decode) :
    Stocked decode P (ofSettings settings, world) := ⟨h, by simp [ofSettings]⟩

end TerrainTiles.Manager
