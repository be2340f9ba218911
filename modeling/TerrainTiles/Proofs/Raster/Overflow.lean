import TerrainTiles.Proofs.Raster.Voids

/-!
# Samples that overflow

Weights do not take a cell beyond a bound, and the weighted sum of four cells is within
four times the bound. So a grid of which all cells are void or stay below an eighth of the
range of single precision has no infinite sample, by any method (`isSettled_sample`). All
rasters of integers are decoded to such grids, and others are if their cells are not
larger (`isModerate_decode`).
-/

namespace TerrainTiles

open Binary Format

namespace Sample

variable {f : Format} {x : Binary f} {v : Double} {grid : Grid} {row column : Double} {r c : Int}

/-- `2 ^ 125` in units: an eighth of the range of single precision. -/
def limit (f : Format) : Nat := Nat.pow 2 125 * f.one

/-- The number is void, or finite and within the limit. -/
def IsModerate (x : Binary f) : Prop := x.isNaN = true ∨ x.AtMost (limit f)

def IsSettled (x : Binary f) : Prop := x.isNaN = true ∨ x.isFinite = true

theorem IsModerate.atMost (h : IsModerate x) (hnan : x.isNaN = false) : x.AtMost (limit f) :=
  h.resolve_left (by simp [hnan])

theorem IsModerate.isSettled (h : IsModerate x) : IsSettled x := h.imp_right AtMost.isFinite

theorem IsModerate.narrow {x : Double} (h : IsModerate x) : IsModerate (narrow x) := by
  rcases h with hnan | hbound
  · exact .inl ((isNaN_convert _ x).trans hnan)
  · refine .inr (hbound.convert (by decide +kernel) (Nat.le_of_eq ?_))
    rw [limit, limit, Nat.mul_right_comm]

/-- Every finite number of single precision is one of double precision. -/
theorem isFinite_widen {x : Single} (h : x.isFinite) : (widen x).isFinite := by
  obtain ⟨a, hx⟩ := isFinite_iff.mp h
  have hbound : x.AtMost binary32.bound := ⟨a, hx, Nat.le_of_lt (fits_of_units hx).2⟩
  have hwide : binary64.Fits (Nat.pow 2 128 * binary64.one) := by decide +kernel
  exact (hbound.convert hwide (by decide +kernel)).isFinite

theorem IsSettled.widen {x : Single} (h : IsSettled x) : IsSettled (widen x) :=
  h.imp (isNaN_convert _ x).trans isFinite_widen

theorem isSettled_nan : IsSettled (.nan : Binary f) := .inl rfl

/-- The weighted sum of four numbers within the limit does not overflow. -/
theorem isFinite_blend {x00 x01 x10 x11 : Single} {dr dc : Double}
    (h00 : x00.AtMost (limit binary32)) (h01 : x01.AtMost (limit binary32))
    (h10 : x10.AtMost (limit binary32)) (h11 : x11.AtMost (limit binary32))
    (hr : IsWeight dr) (hc : IsWeight dc) : (blend x00 x01 x10 x11 dr dc).isFinite := by
  have hfits : binary32.Fits (limit binary32) := by decide +kernel
  have term {x v w : Single} (hx : x.AtMost (limit binary32)) (hv : IsWeight v)
      (hw : IsWeight w) : (x * v * w).AtMost (limit binary32) :=
    atMost_mul_weight (atMost_mul_weight hx hv hfits) hw hfits
  have hnr := (hr.complement (by decide)).narrow
  have hnc := (hc.complement (by decide)).narrow
  have htwo := (term h00 hnr hnc).add (term h01 hnr hc.narrow) (by decide +kernel)
  have hthree := htwo.add (term h10 hr.narrow hnc) (by decide +kernel)
  exact (hthree.add (term h11 hr.narrow hc.narrow) (by decide +kernel)).isFinite

-- ---------------------------------------------------------------------------
-- Samples
-- ---------------------------------------------------------------------------

theorem isSettled_nearest (hcells : ∀ v ∈ grid.cells, IsModerate v)
    (h : nearest grid column row = .ok v) : IsSettled v := by
  obtain ⟨r, -, h⟩ := bind_eq_ok.mp h
  obtain ⟨c, -, h⟩ := bind_eq_ok.mp h
  cases hcell : cellAt? grid r c with
  | none =>
    rw [hcell] at h
    cases h
    exact isSettled_nan
  | some x =>
    rw [hcell] at h
    cases h
    exact (hcells x (mem_cells_of_cellAt? hcell)).isSettled.widen

theorem isWeight_sub_index (h : index row = .ok r) (hr : 0 ≤ r) : IsWeight (row - .ofInt r) := by
  obtain ⟨a, ha, rfl⟩ := units_of_index h
  have hpos : (0 : Int) < binary64.one := Int.natCast_pos.mpr binary64.one_pos
  exact isWeight_sub_floor ha ((Int.ediv_nonneg_iff_of_pos hpos).mp hr)

theorem isSettled_corners {x00 x01 x10 x11 : Single} (hcells : ∀ v ∈ grid.cells, IsModerate v)
    (hr : index row = .ok r) (hc : index column = .ok c)
    (h : corners? grid r c = some (x00, x01, x10, x11))
    (hnan : (x00.isNaN || x01.isNaN || x10.isNaN || x11.isNaN) = false) :
    IsSettled (widen (blend x00 x01 x10 x11 (row - .ofInt r) (column - .ofInt c))) := by
  obtain ⟨h00, h01, h10, h11⟩ := corners?_eq_some.mp h
  obtain ⟨⟨hrow, -⟩, hcolumn, -⟩ := cellAt?_isSome.mp (Option.isSome_of_eq_some h00)
  simp only [Bool.or_eq_false_iff] at hnan
  obtain ⟨⟨⟨n00, n01⟩, n10⟩, n11⟩ := hnan
  have moderate {x : Single} {i j : Int} (hcell : cellAt? grid i j = some x)
      (hx : x.isNaN = false) : x.AtMost (limit binary32) :=
    (hcells x (mem_cells_of_cellAt? hcell)).atMost hx
  exact IsSettled.widen (.inr (isFinite_blend (moderate h00 n00) (moderate h01 n01)
    (moderate h10 n10) (moderate h11 n11) (isWeight_sub_index hr hrow)
    (isWeight_sub_index hc hcolumn)))

theorem isSettled_bilinear (hcells : ∀ v ∈ grid.cells, IsModerate v)
    (h : bilinear grid column row = .ok v) : IsSettled v := by
  obtain ⟨r, hr, h⟩ := bind_eq_ok.mp h
  obtain ⟨c, hc, h⟩ := bind_eq_ok.mp h
  cases hcorners : corners? grid r c with
  | none =>
    rw [hcorners] at h
    cases h
    exact isSettled_nan
  | some corners =>
    obtain ⟨x00, x01, x10, x11⟩ := corners
    simp only [hcorners] at h
    split at h
    · cases h
      exact isSettled_nan
    · next hnan =>
      cases h
      exact isSettled_corners hcells hr hc hcorners (Bool.not_eq_true _ ▸ hnan)

theorem isSettled_sample {transform : Transform} {lon lat : Double} {method : String}
    (hcells : ∀ v ∈ grid.cells, IsModerate v)
    (h : grid.sample transform lon lat method = .ok v) : IsSettled v := by
  obtain ⟨⟨column, row⟩, -, h⟩ := bind_eq_ok.mp h
  dsimp only at h
  split at h
  · next method _ =>
    cases method with
    | nearest => exact isSettled_nearest hcells h
    | bilinear => exact isSettled_bilinear hcells h
  · cases h

end Sample

-- ---------------------------------------------------------------------------
-- Rasters
-- ---------------------------------------------------------------------------

open Sample

def Tile.IsModerate (tile : Tile) : Prop :=
  ∀ grid, tile.grid = some grid → ∀ x ∈ grid.cells, Sample.IsModerate x

namespace Raster

variable {raster : Raster}

theorem isModerate_of_holds {type : CellType} {x : Double} (h : type.Holds x)
    (hint : type.bounds?.isSome) : Sample.IsModerate x := by
  have hbounds : ∃ n : Int, n.natAbs ≤ 2 ^ 32 ∧ x = .ofInt n := by
    cases type with
    | float32 | float64 => cases hint
    | uint8 | int16 | uint16 | int32 =>
      simp only [CellType.Holds, CellType.bounds?] at h
      obtain ⟨n, hlow, hhigh, hx⟩ := h
      exact ⟨n, by omega, hx⟩
  obtain ⟨n, hn, hx⟩ := hbounds
  rw [hx]
  have hfits : binary64.Fits (n.natAbs * binary64.one) :=
    fits_mul_one (by decide) (Nat.lt_of_le_of_lt hn (by decide))
  refine .inr ⟨_, units_ofInt hfits, ?_⟩
  rw [Int.natAbs_mul, Int.natAbs_natCast, limit]
  exact Nat.mul_le_mul_right _ (Nat.le_trans hn (by decide))

theorem isModerate_decodeCell {x : Double} (h : Sample.IsModerate x) :
    Sample.IsModerate (decodeCell raster.nodata x) := by
  cases hnan : (decodeCell raster.nodata x).isNaN with
  | true => exact .inl hnan
  | false =>
    rw [decodeCell_of_isNaN hnan]
    exact h.narrow

theorem isModerate_decode {name : String} {tile : Tile}
    (hcells : ∀ x ∈ raster.cells, Sample.IsModerate x) (h : raster.decode name = some tile) :
    tile.IsModerate := by
  obtain ⟨decoded, hdecoded, h⟩ := Option.bind_eq_some_iff.mp h
  intro grid hgrid x hx
  obtain rfl : decoded = grid := by
    split at h
    · cases h
    · cases h
      exact Option.some.inj hgrid
  obtain ⟨row, hrow, hx⟩ := List.mem_flatten.mp hx
  unfold grid? Grid.ofRows? at hdecoded
  dsimp only at hdecoded
  split at hdecoded
  · cases hdecoded
    obtain ⟨cells, hcells', rfl⟩ := List.mem_map.mp hrow
    obtain ⟨y, hy, rfl⟩ := List.mem_map.mp hx
    exact isModerate_decodeCell (hcells y (List.mem_flatten.mpr ⟨cells, hcells', hy⟩))
  · cases hdecoded

end Raster

end TerrainTiles
