import TerrainTiles.Proofs.Descriptor.History

/-!
# The life of a descriptor

`Sound` ties the state of a descriptor to the tile it caches and to its message,
whatever its fetcher and decoder do. `reached` lists the changes of state a step
can make. With a decoder of rasters a cached tile also has an elevation to give
(`Stocked`). `lifecycle_afterSteps` states all three for every history.
-/

namespace TerrainTiles

-- ---------------------------------------------------------------------------
-- Products
-- ---------------------------------------------------------------------------

theorem Grid.exists_cell {grid : Grid} (h : grid.isVoid = false) :
    ∃ row column x, grid.cell? row column = some x ∧ x.isNaN = false := by
  simp only [isVoid, cells, List.all_eq_false] at h
  obtain ⟨x, hx, hnan⟩ := h
  obtain ⟨cells, hcells, hx⟩ := List.mem_flatten.mp hx
  obtain ⟨row, hrow, hget⟩ := List.getElem_of_mem hcells
  obtain ⟨column, hcolumn, hget'⟩ := List.getElem_of_mem hx
  subst hget
  exact ⟨row, column, x, by simp [cell?, hrow, hcolumn, hget'], by simpa using hnan⟩

/-- The tile has cells, and one of them is a number. -/
def Tile.HasProduct (tile : Tile) : Prop :=
  ∃ grid, tile.grid = some grid ∧ 0 < grid.height ∧ 0 < grid.width ∧
    ∃ row column x, grid.cell? row column = some x ∧ x.isNaN = false

theorem Tile.HasProduct.isDisposed {tile : Tile} (h : tile.HasProduct) :
    tile.isDisposed = false := by
  obtain ⟨grid, hgrid, -⟩ := h
  simp [Tile.isDisposed, hgrid]

theorem Raster.hasProduct_of_decode {raster : Raster} {name : String} {tile : Tile}
    (h : raster.decode name = some tile) : tile.HasProduct := by
  obtain ⟨grid, hgrid, h⟩ := Option.bind_eq_some_iff.mp h
  split at h
  · cases h
  · next hvoid =>
    cases h
    obtain ⟨row, column, x, hcell, hnan⟩ := Grid.exists_cell (Bool.not_eq_true _ ▸ hvoid)
    obtain ⟨hrow, hcolumn⟩ := (grid.cell?_isSome row column).mp (by simp [hcell])
    exact ⟨grid, rfl, Nat.zero_lt_of_lt hrow, Nat.zero_lt_of_lt hcolumn, row, column, x, hcell,
      hnan⟩

theorem Decoder.exists_raster {read? : Bytes → Option Raster} {unpacker : Archive.Unpacker}
    {f : Reader} {data : Bytes} {name : String} {tile : Tile}
    (hf : Decoder.ofRasters read? unpacker = .deterministic f)
    (h : f data name = .ok (some tile)) :
    ∃ raster, read? data = some raster ∧ raster.decode name = some tile := by
  cases hf
  dsimp only at h
  split at h
  · next raster hread => exact ⟨raster, hread, Except.ok.inj h⟩
  · cases h

namespace Descriptor

open Act

variable {d d' : Descriptor} {world : World} {s : Descriptor × World}
  {result : Except Fault (Option Loan)} {work : List Event} {read? : Bytes → Option Raster}
  {unpacker : Archive.Unpacker}

-- ---------------------------------------------------------------------------
-- State, tile and message
-- ---------------------------------------------------------------------------

structure Sound (d : Descriptor) : Prop where
  cached : d.cached.isSome ↔ d.state = .ready
  state : d.state ≠ .onDisk
  message : d.state = .ready ∨ d.state = .unknown → d.message = ""

theorem sound_fresh (copy : LocalCopy) (fetcher : Option Fetcher) : Sound (fresh copy fetcher) := by
  constructor <;> simp [fresh]

theorem sound_of_none (hc : d.cached = none)
    (hs : d.state = .absent ∨ d.state = .fatal ∨ d.state = .remote ∨ d.state = .localError) :
    Sound d := by
  constructor <;> rcases hs with h | h | h | h <;> simp [hc, h]

theorem sound_acquired (h : Sound d) (ha : Acquired d world result d' work) : Sound d' := by
  cases ha with
  | settled => exact h
  | nameless => exact h
  | unfetched hs hstate =>
    have hc : d.cached = none := cached_of_settled_none hs
    exact sound_of_none hc (hstate.imp_right (.imp_right (.imp And.left And.left)))
  | undecoded _ hstate => exact sound_of_none rfl (hstate.imp_right fun h => .inr (.inr h))
  | lent => exact ⟨by simp, by simp, fun _ => rfl⟩

theorem sound_dispose (h : Sound d) (world : World) : Sound (dispose.run (d, world)).2.1 := by
  rw [run_dispose]
  by_cases hr : d.state = .ready
  · refine ⟨by simp [hr], by simp [hr], fun _ => h.message (.inl hr)⟩
  · have hunready : ∀ state, (if d.state = .ready then State.unknown else d.state) = state ↔
        d.state = state := by simp [hr]
    refine ⟨by simp [hr], by simpa [hunready] using h.state, ?_⟩
    simpa [hunready] using h.message

theorem sound_step (s : Descriptor × World) (step : Step) (h : Sound s.1) :
    Sound (step.after s).1 := by
  obtain ⟨d, world⟩ := s
  rcases step with (_ | _ | _) | change
  · exact sound_acquired h (acquired_getTile d world)
  · exact sound_dispose h world
  · exact ⟨h.cached, h.state, h.message⟩
  · exact h

theorem sound_afterSteps (h : Sound s.1) (steps : List Step) : Sound (afterSteps steps s).1 :=
  invariant_afterSteps (P := fun s => Sound s.1) sound_step h steps

-- ---------------------------------------------------------------------------
-- Changes of state
-- ---------------------------------------------------------------------------

/-- The other states that a step can lead to. -/
def reached : Step → State → List State
  | .call .getTile, .unknown => [.remote, .ready, .localError, .absent, .fatal]
  | .call .getTile, .remote => [.ready, .localError, .absent, .fatal]
  | .call .getTile, .localError => [.ready, .absent, .fatal]
  | .call .dispose, .ready => [.unknown]
  | _, _ => []

/-- A descriptor whose answer is not settled still has to find its tile. -/
theorem Sound.state_of_settled_none (h : Sound d) (hs : d.settled? = none) :
    d.state = .unknown ∨ d.state = .remote ∨ d.state = .localError := by
  have hc := cached_of_settled_none hs
  have hready := h.cached
  have hdisk := h.state
  simp only [settled?, hc] at hs
  cases hstate : d.state <;> simp_all

theorem reached_acquired (h : Sound d) (ha : Acquired d world result d' work) :
    d'.state = d.state ∨ d'.state ∈ reached (.call .getTile) d.state := by
  cases ha with
  | settled => exact .inl rfl
  | nameless => exact .inl rfl
  | unfetched hs hstate =>
    rcases h.state_of_settled_none hs with hd | hd | hd <;>
      rcases hstate with rfl | rfl | ⟨rfl, hfrom⟩ | ⟨rfl, hfrom⟩ <;> simp_all [reached]
  | undecoded hs hstate =>
    rcases h.state_of_settled_none hs with hd | hd | hd <;>
      rcases hstate with rfl | rfl <;> simp [hd, reached]
  | lent hs =>
    rcases h.state_of_settled_none hs with hd | hd | hd <;> simp [hd, reached]

theorem reached_step (h : Sound s.1) (step : Step) :
    (step.after s).1.state = s.1.state ∨ (step.after s).1.state ∈ reached step s.1.state := by
  obtain ⟨d, world⟩ := s
  rcases step with (_ | _ | _) | change
  · exact reached_acquired h (acquired_getTile d world)
  · change (dispose.run (d, world)).2.1.state = _ ∨ (dispose.run (d, world)).2.1.state ∈ _
    rw [run_dispose]
    by_cases hr : d.state = .ready
    · exact .inr (by simp [hr, reached])
    · exact .inl (if_neg hr)
  · exact .inl rfl
  · exact .inl rfl

-- ---------------------------------------------------------------------------
-- Tiles
-- ---------------------------------------------------------------------------

structure Stocked (read? : Bytes → Option Raster) (unpacker : Archive.Unpacker)
    (s : Descriptor × World) : Prop where
  decoder : s.2.decoder = .ofRasters read? unpacker
  product : ∀ loan, s.1.cached = some loan → loan.tile.HasProduct

/-- What holds of every tile that the decoder makes stays true of the cached one. -/
theorem cached_acquired {f : Reader} {P : Tile → Prop}
    (hmakes : ∀ data name tile, f data name = .ok (some tile) → P tile)
    (hdecoder : world.decoder = .deterministic f)
    (h : ∀ loan, d.cached = some loan → P loan.tile) (ha : Acquired d world result d' work) :
    ∀ loan, d'.cached = some loan → P loan.tile := by
  cases ha with
  | settled => exact h
  | nameless => exact h
  | unfetched => exact h
  | undecoded => simp
  | lent _ _ _ htile =>
    rintro loan ⟨⟩
    obtain ⟨data, hdata⟩ := htile _ hdecoder
    exact hmakes _ _ _ hdata

theorem hasProduct_acquired (h : Stocked read? unpacker (d, world))
    (ha : Acquired d world result d' work) :
    ∀ loan, d'.cached = some loan → loan.tile.HasProduct := by
  refine cached_acquired (fun data name tile hdecode => ?_) h.decoder h.product ha
  obtain ⟨raster, -, htile⟩ := Decoder.exists_raster rfl hdecode
  exact Raster.hasProduct_of_decode htile

theorem stocked_step (s : Descriptor × World) (step : Step) (h : Stocked read? unpacker s) :
    Stocked read? unpacker (step.after s) := by
  obtain ⟨d, world⟩ := s
  rcases step with (_ | _ | _) | change
  · exact ⟨(steady_getTile (d, world)).decoder _ h.decoder,
      hasProduct_acquired h (acquired_getTile d world)⟩
  · change Stocked read? unpacker (dispose.run (d, world)).2
    rw [run_dispose]
    exact ⟨(closed_frame d world).2.decoder.trans h.decoder, by simp⟩
  · exact ⟨h.decoder, h.product⟩
  · exact ⟨h.decoder, h.product⟩

-- ---------------------------------------------------------------------------
-- Histories
-- ---------------------------------------------------------------------------

theorem current_of_cached {loan : Loan} (h : d.cached = some loan) :
    d.current loan = loan.tile := by
  simp [current, h]

/-- After every step of every history, with any fetcher: a tile is cached exactly
if the state is ready, and then there is no message, nor before the first
acquisition; the cached tile is not disposed of and has an elevation to give; and
the state was left alone or changed as listed. -/
theorem lifecycle_afterSteps (copy : LocalCopy) (fetcher : Option Fetcher)
    (read? : Bytes → Option Raster) (unpacker : Archive.Unpacker) (world : World)
    (steps : List Step) (step : Step) :
    let before := afterSteps steps
      (fresh copy fetcher, { world with decoder := .ofRasters read? unpacker })
    let after := step.after before
    Sound after.1 ∧
      (∀ loan, after.1.cached = some loan →
        (after.1.current loan).isDisposed = false ∧ (after.1.current loan).HasProduct) ∧
      (after.1.state = before.1.state ∨ after.1.state ∈ reached step before.1.state) := by
  intro before after
  have hsound : Sound before.1 := sound_afterSteps (sound_fresh copy fetcher) steps
  have hstocked : Stocked read? unpacker before :=
    invariant_afterSteps stocked_step ⟨rfl, by simp [fresh]⟩ steps
  refine ⟨sound_step before step hsound, ?_, reached_step hsound step⟩
  intro loan hloan
  have hproduct := (stocked_step before step hstocked).product loan hloan
  rw [current_of_cached hloan]
  exact ⟨hproduct.isDisposed, hproduct⟩

end Descriptor

end TerrainTiles
