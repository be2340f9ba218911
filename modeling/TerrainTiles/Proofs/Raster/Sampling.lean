import TerrainTiles.Proofs.Binary.Units
import TerrainTiles.Raster.Tile

/-!
# Samples inside a tile

A tile without voids has a nearest sample wherever its pixel coordinates lie on the
grid. A bilinear sample takes the four cells whose centres surround the point, so the
point has to lie at least half a cell from the first edges and more than half a cell
from the last ones (`flanked_iff_inset`): in a border half a cell wide, and along the
centres of the last row and column, the sample is not-a-number (`sample_within`).

Where the four cells are there, their weighted sum is a number: weights lie between
zero and one, so every product is finite, and a sum of finite numbers can overflow but
not become not-a-number (`isNaN_blend`).
-/

namespace TerrainTiles

namespace Interpolation

@[simp] theorem ofName?_name (method : Interpolation) : ofName? method.name = some method := by
  cases method <;> rfl

end Interpolation

namespace Sample

open Binary Format

variable {f : Format} {x y w : Binary f}

-- ---------------------------------------------------------------------------
-- Weighted sums
-- ---------------------------------------------------------------------------

def IsWeight (w : Binary f) : Prop := ∃ a, w.toUnits? = some a ∧ 0 ≤ a ∧ a ≤ f.one

theorem IsWeight.complement (hf : f.precision + f.unitExponent ≤ f.width) (h : IsWeight w) :
    IsWeight (1 - w) := by
  obtain ⟨a, hw, h0, h1⟩ := h
  exact units_add (units_one hf) (units_neg hw) f.fits_zero (fits_one hf)
    (Int.sub_nonneg.mpr h1) (Int.sub_le_self _ h0)

theorem IsWeight.convert {g : Format} (hg : g.precision + g.unitExponent ≤ g.width)
    (h : IsWeight w) : IsWeight (w.convert g) := by
  obtain ⟨a, hw, h0, h1⟩ := h
  have hlow : 0 * (f.one : Int) ≤ a * g.one := by
    rw [Int.zero_mul]
    exact Int.mul_nonneg h0 (Int.natCast_nonneg _)
  have hhigh : a * g.one ≤ g.one * f.one := by
    rw [Int.mul_comm]
    exact Int.mul_le_mul_of_nonneg_left h1 (Int.natCast_nonneg _)
  exact units_convert hw g.fits_zero (fits_one hg) hlow hhigh

theorem IsWeight.narrow {w : Double} (h : IsWeight w) : IsWeight (narrow w) :=
  h.convert (by decide)

theorem atMost_mul_weight {b : Nat} (hx : x.AtMost b) (hw : IsWeight w) (hb : f.Fits b) :
    (x * w).AtMost b := by
  obtain ⟨a, hx, ha⟩ := hx
  obtain ⟨s, hw, h0, h1⟩ := hw
  have hfits : f.Fits (b : Int).natAbs := by rwa [Int.natAbs_natCast]
  have hscale : (b : Int) * s ≤ b * f.one :=
    Int.mul_le_mul_of_nonneg_left h1 (Int.natCast_nonneg _)
  have hlow : -(b : Int) * f.one ≤ a * s :=
    calc -(b : Int) * f.one ≤ -(b : Int) * s := by
          rw [Int.neg_mul, Int.neg_mul]
          exact Int.neg_le_neg hscale
      _ ≤ a * s := Int.mul_le_mul_of_nonneg_right (by omega) h0
  have hhigh : a * s ≤ b * f.one :=
    calc a * s ≤ b * s := Int.mul_le_mul_of_nonneg_right (by omega) h0
      _ ≤ b * f.one := hscale
  obtain ⟨c, hc, hle, hge⟩ := units_mul hx hw (by rwa [Int.natAbs_neg]) hfits hlow hhigh
  exact ⟨c, hc, by omega⟩

theorem isFinite_mul_weight (hx : x.isFinite) (hw : IsWeight w) : (x * w).isFinite := by
  obtain ⟨a, hx⟩ := isFinite_iff.mp hx
  have hbound : x.AtMost a.natAbs := ⟨a, hx, Nat.le_refl _⟩
  exact (atMost_mul_weight hbound hw (fits_of_units hx)).isFinite

theorem isNaN_add_of_finite (hx : x.isNaN = false) (hy : y.isFinite) :
    (x + y).isNaN = false := by
  cases y with
  | nan => cases hy
  | infinite q => cases hy
  | finite q n hn =>
    cases x with
    | nan => cases hx
    | infinite p => rfl
    | finite p m hm =>
      by_cases hsum : signed p m + signed q n = 0
      · rw [show (finite p m hm + finite q n hn : Binary f) = zero (p && q) from if_pos hsum]
        rfl
      · rw [show (finite p m hm + finite q n hn : Binary f) = _ from if_neg hsum]
        exact isNaN_ofRatio _ _ _

theorem isNaN_of_finite (h : x.isFinite) : x.isNaN = false := by
  obtain ⟨a, hx⟩ := isFinite_iff.mp h
  exact isNaN_of_units hx

/-- The sum may overflow, but its terms do not cancel to not-a-number. -/
theorem isNaN_blend {x00 x01 x10 x11 : Single} {dr dc : Double} (h00 : x00.isFinite)
    (h01 : x01.isFinite) (h10 : x10.isFinite) (h11 : x11.isFinite) (hr : IsWeight dr)
    (hc : IsWeight dc) : (blend x00 x01 x10 x11 dr dc).isNaN = false := by
  have term {x v w : Single} (hx : x.isFinite) (hv : IsWeight v) (hw : IsWeight w) :
      (x * v * w).isFinite :=
    isFinite_mul_weight (isFinite_mul_weight hx hv) hw
  have hnr := (hr.complement (by decide)).narrow
  have hnc := (hc.complement (by decide)).narrow
  refine isNaN_add_of_finite (isNaN_add_of_finite (isNaN_add_of_finite ?_ ?_) ?_) ?_
  · exact isNaN_of_finite (term h00 hnr hnc)
  · exact term h01 hnr hc.narrow
  · exact term h10 hr.narrow hnc
  · exact term h11 hr.narrow hc.narrow

theorem isNaN_convert (g : Format) (x : Binary f) : (x.convert g).isNaN = x.isNaN := by
  cases x with
  | nan => rfl
  | infinite p => rfl
  | finite p m hm => exact isNaN_ofRatio _ _ _

-- ---------------------------------------------------------------------------
-- Pixel coordinates
-- ---------------------------------------------------------------------------

/-- The coordinate is not negative and below `n`. -/
def Within (x : Double) (n : Nat) : Prop :=
  ∃ a, x.toUnits? = some a ∧ 0 ≤ a ∧ a < n * binary64.one

/-- The coordinate, counted from the first centre, falls between two of `n` cells. -/
def Flanked (x : Double) (n : Nat) : Prop := ∃ k, (x - half).floor? = some k ∧ 0 ≤ k ∧ k + 1 < n

/-- The coordinate is at least one half, and below `n` by more than one half. -/
def Inset (x : Double) (n : Nat) : Prop :=
  ∃ a, x.toUnits? = some a ∧ binary64.one ≤ 2 * a ∧ 2 * a + binary64.one < 2 * (n * binary64.one)

theorem units_half : ∃ s : Nat, half.toUnits? = some (s : Int) ∧ binary64.one = 2 * s ∧
    s = 2 ^ 1073 :=
  ⟨Nat.pow 2 1073, by decide +kernel, by decide +kernel, by decide +kernel⟩

theorem index_of_units {x : Double} {a : Int} (h : x.toUnits? = some a) :
    index x = .ok (a / binary64.one) := by
  obtain ⟨p, m, hm, rfl, rfl⟩ := toUnits?_eq_some.mp h
  rfl

theorem units_of_index {x : Double} {r : Int} (h : index x = .ok r) :
    ∃ a, x.toUnits? = some a ∧ r = a / (binary64.one : Int) := by
  cases x with
  | nan => cases h
  | infinite p => cases h
  | finite p m hm => exact ⟨_, rfl, (Except.ok.inj h).symm⟩

theorem units_sub_half {x : Double} {m s : Nat} (hx : x.toUnits? = some (m : Int))
    (hhalf : half.toUnits? = some (s : Int)) (hs : s = 2 ^ 1073)
    (hm : m < 2 ^ 52 * binary64.one) (hle : s ≤ m) :
    (x - half).toUnits? = some ((m : Int) - s) := by
  have hbinade : m < 2 ^ (1073 + binary64.precision) := by
    have hpow : 2 ^ 52 * binary64.one = 2 ^ (1073 + binary64.precision) := by decide +kernel
    rwa [hpow] at hm
  have hgap : binary64.gap m ∣ m - s := by
    refine Nat.dvd_sub (fits_of_units hx).1 ?_
    rw [hs]
    exact gap_dvd_pow hbinade
  refine units_sub_of_fits hx hhalf ?_
  rw [← Int.ofNat_sub hle]
  exact fits_of_dvd (fits_of_units hx) (Nat.sub_le ..) hgap

/-- A coordinate below one half lies before the first centre, however the difference
is rounded. -/
theorem not_flanked_of_lt {x : Double} {m s n : Nat} (hx : x.toUnits? = some (m : Int))
    (hhalf : half.toUnits? = some (s : Int)) (hlt : m < s) : ¬Flanked x n := by
  have hfits : binary64.Fits (-1 : Int).natAbs := by decide +kernel
  have hlow : -(s : Int) ≤ m + -(s : Int) := by omega
  have hhigh : m + -(s : Int) ≤ -1 := by omega
  obtain ⟨c, hc, -, hneg⟩ := units_add hx (units_neg hhalf) (fits_of_units (units_neg hhalf))
    hfits hlow hhigh
  rintro ⟨k, hk, hnonneg, -⟩
  obtain ⟨a, ha, rfl⟩ := floor?_eq_some.mp hk
  obtain rfl : c = a := Option.some.inj (hc.symm.trans ha)
  have hfloor : c / (binary64.one : Int) < 0 :=
    Int.ediv_neg_of_neg_of_pos (by omega) (Int.natCast_pos.mpr binary64.one_pos)
  omega

/-- Below `2 ^ 52` the coordinate as computed and the exact one fall between the same
centres. -/
theorem flanked_iff_inset {x : Double} {n : Nat} (hn : n ≤ 2 ^ 52) (hx : Within x n) :
    Flanked x n ↔ Inset x n := by
  obtain ⟨a, hunits, h0, hlt⟩ := hx
  obtain ⟨m, rfl⟩ := Int.eq_ofNat_of_zero_le h0
  obtain ⟨s, hhalf, hone, hs⟩ := units_half
  have hinset : Inset x n ↔ s ≤ m ∧ m + s < n * (2 * s) := by
    rw [Inset, hunits, hone]
    constructor
    · rintro ⟨a, ha, hle, hlast⟩
      obtain rfl := Option.some.inj ha
      exact ⟨by omega, by omega⟩
    · rintro ⟨hle, hlast⟩
      exact ⟨m, rfl, by omega, by omega⟩
  rcases Nat.lt_or_ge m s with hlow | hhigh
  · exact iff_of_false (not_flanked_of_lt hunits hhalf hlow) fun h => by
      have := (hinset.mp h).1
      omega
  · have hbound : m < 2 ^ 52 * binary64.one := by
      exact Nat.lt_of_lt_of_le (by exact_mod_cast hlt) (Nat.mul_le_mul_right _ hn)
    have hsub := units_sub_half hunits hhalf hs hbound hhigh
    have hpos : (0 : Int) < binary64.one := Int.natCast_pos.mpr binary64.one_pos
    have hlast : ((m : Int) - s) / binary64.one < n - 1 ↔ m + s < n * (2 * s) := by
      rw [Int.ediv_lt_iff_lt_mul hpos, Int.sub_mul, hone]
      omega
    have hfirst : 0 ≤ ((m : Int) - s) / binary64.one := Int.ediv_nonneg (by omega) (by omega)
    rw [hinset, ← hlast, Flanked, floor?_eq_some.mpr ⟨_, hsub, rfl⟩]
    constructor
    · rintro ⟨k, hk, -, hk'⟩
      obtain rfl := Option.some.inj hk
      exact ⟨hhigh, by omega⟩
    · rintro ⟨-, hk⟩
      exact ⟨_, rfl, hfirst, by omega⟩

theorem Within.isFinite_sub_half {x : Double} {n : Nat} (h : Within x n) :
    (x - half).isFinite := by
  obtain ⟨a, hx, h0, -⟩ := h
  obtain ⟨s, hs, -⟩ := units_half
  have hlow : -(s : Int) ≤ a + -(s : Int) := by omega
  have hhigh : a + -(s : Int) ≤ a := by omega
  obtain ⟨c, hc, -⟩ := units_add hx (units_neg hs) (fits_of_units (units_neg hs))
    (fits_of_units hx) hlow hhigh
  exact isFinite_iff.mpr ⟨c, hc⟩

-- ---------------------------------------------------------------------------
-- Cells
-- ---------------------------------------------------------------------------

variable {grid : Grid} {r c : Int} {row column : Double}

theorem cellAt?_isSome : (cellAt? grid r c).isSome ↔
    (0 ≤ r ∧ r < grid.height) ∧ 0 ≤ c ∧ c < grid.width := by
  unfold cellAt?
  split
  · rw [grid.cell?_isSome]
    omega
  · simp only [Option.isSome_none, Bool.false_eq_true, false_iff]
    omega

theorem mem_cells_of_cellAt? {v : Single} (h : cellAt? grid r c = some v) : v ∈ grid.cells := by
  unfold cellAt? at h
  split at h
  · exact grid.mem_cells_of_cell? h
  · cases h

theorem corners?_eq_some {x00 x01 x10 x11 : Single} :
    corners? grid r c = some (x00, x01, x10, x11) ↔
      cellAt? grid r c = some x00 ∧ cellAt? grid r (c + 1) = some x01 ∧
      cellAt? grid (r + 1) c = some x10 ∧ cellAt? grid (r + 1) (c + 1) = some x11 := by
  simp [corners?, Option.bind_eq_some_iff]

theorem corners?_isSome : (corners? grid r c).isSome ↔
    (0 ≤ r ∧ r + 1 < grid.height) ∧ 0 ≤ c ∧ c + 1 < grid.width := by
  constructor
  · intro h
    obtain ⟨⟨x00, x01, x10, x11⟩, hcorners⟩ := Option.isSome_iff_exists.mp h
    obtain ⟨h00, -, -, h11⟩ := corners?_eq_some.mp hcorners
    obtain ⟨⟨hr, -⟩, hc, -⟩ := cellAt?_isSome.mp (Option.isSome_of_eq_some h00)
    obtain ⟨⟨-, hr'⟩, -, hc'⟩ := cellAt?_isSome.mp (Option.isSome_of_eq_some h11)
    exact ⟨⟨hr, hr'⟩, hc, hc'⟩
  · rintro ⟨⟨hr, hr'⟩, hc, hc'⟩
    have cell (i j : Int) (hi : 0 ≤ i ∧ i < grid.height) (hj : 0 ≤ j ∧ j < grid.width) :
        ∃ v, cellAt? grid i j = some v :=
      Option.isSome_iff_exists.mp (cellAt?_isSome.mpr ⟨hi, hj⟩)
    obtain ⟨x00, h00⟩ := cell r c (by omega) (by omega)
    obtain ⟨x01, h01⟩ := cell r (c + 1) (by omega) (by omega)
    obtain ⟨x10, h10⟩ := cell (r + 1) c (by omega) (by omega)
    obtain ⟨x11, h11⟩ := cell (r + 1) (c + 1) (by omega) (by omega)
    exact Option.isSome_of_eq_some (corners?_eq_some.mpr ⟨h00, h01, h10, h11⟩)

-- ---------------------------------------------------------------------------
-- Samples
-- ---------------------------------------------------------------------------

theorem nearest_of_cell {v : Single} (hr : index row = .ok r) (hc : index column = .ok c)
    (hv : cellAt? grid r c = some v) : nearest grid column row = .ok (widen v) := by
  simp only [nearest, hr, hc, hv, bind, Except.bind, pure, Except.pure]

theorem bilinear_outside (hr : index row = .ok r) (hc : index column = .ok c)
    (h : corners? grid r c = none) : bilinear grid column row = .ok .nan := by
  simp only [bilinear, hr, hc, h, bind, Except.bind, pure, Except.pure]

/-- The nearest sample of a point on the grid is the cell it falls in. -/
theorem nearest_within (hcells : ∀ v ∈ grid.cells, v.isFinite) (hrow : Within row grid.height)
    (hcolumn : Within column grid.width) :
    ∃ v, nearest grid column row = .ok v ∧ v.isNaN = false := by
  obtain ⟨a, ha, h0, hlt⟩ := hrow
  obtain ⟨b, hb, h0', hlt'⟩ := hcolumn
  have hpos : (0 : Int) < binary64.one := Int.natCast_pos.mpr binary64.one_pos
  have hr : 0 ≤ a / binary64.one ∧ a / binary64.one < grid.height :=
    ⟨Int.ediv_nonneg h0 (Int.le_of_lt hpos), Int.ediv_lt_of_lt_mul hpos hlt⟩
  have hc : 0 ≤ b / binary64.one ∧ b / binary64.one < grid.width :=
    ⟨Int.ediv_nonneg h0' (Int.le_of_lt hpos), Int.ediv_lt_of_lt_mul hpos hlt'⟩
  obtain ⟨v, hv⟩ := Option.isSome_iff_exists.mp (cellAt?_isSome.mpr ⟨hr, hc⟩)
  refine ⟨widen v, nearest_of_cell (index_of_units ha) (index_of_units hb) hv, ?_⟩
  rw [widen, isNaN_convert]
  exact isNaN_of_finite (hcells v (mem_cells_of_cellAt? hv))

theorem isWeight_sub_floor {x : Double} {a : Int} (hx : x.toUnits? = some a) (h : 0 ≤ a) :
    IsWeight (x - .ofInt (a / binary64.one)) := by
  obtain ⟨m, rfl⟩ := Int.eq_ofNat_of_zero_le h
  refine ⟨_, units_fraction hx, Int.natCast_nonneg _, ?_⟩
  exact_mod_cast Nat.le_of_lt (Nat.mod_lt m binary64.one_pos)

theorem bilinear_inside {x00 x01 x10 x11 : Single} {a b : Int}
    (hcells : ∀ v ∈ grid.cells, v.isFinite) (ha : row.toUnits? = some a)
    (hb : column.toUnits? = some b)
    (h : corners? grid (a / binary64.one) (b / binary64.one) = some (x00, x01, x10, x11)) :
    ∃ v, bilinear grid column row = .ok v ∧ v.isNaN = false := by
  obtain ⟨h00, h01, h10, h11⟩ := corners?_eq_some.mp h
  obtain ⟨⟨hr, -⟩, hc, -⟩ := cellAt?_isSome.mp (Option.isSome_of_eq_some h00)
  have f00 := hcells _ (mem_cells_of_cellAt? h00)
  have f01 := hcells _ (mem_cells_of_cellAt? h01)
  have f10 := hcells _ (mem_cells_of_cellAt? h10)
  have f11 := hcells _ (mem_cells_of_cellAt? h11)
  have hsome : bilinear grid column row = .ok (widen (blend x00 x01 x10 x11
      (row - .ofInt (a / binary64.one)) (column - .ofInt (b / binary64.one)))) := by
    simp only [bilinear, index_of_units ha, index_of_units hb, h, bind, Except.bind, pure,
      Except.pure, isNaN_of_finite f00, isNaN_of_finite f01, isNaN_of_finite f10,
      isNaN_of_finite f11, Bool.or_false, Bool.false_eq_true, if_false]
  refine ⟨_, hsome, ?_⟩
  rw [widen, isNaN_convert]
  have hpos : (0 : Int) < binary64.one := Int.natCast_pos.mpr binary64.one_pos
  refine isNaN_blend f00 f01 f10 f11 (isWeight_sub_floor ha ?_) (isWeight_sub_floor hb ?_)
  · exact (Int.ediv_nonneg_iff_of_pos hpos).mp hr
  · exact (Int.ediv_nonneg_iff_of_pos hpos).mp hc

theorem flanked_iff {x : Double} {a : Int} {n : Nat} (h : (x - half).toUnits? = some a) :
    Flanked x n ↔ 0 ≤ a / binary64.one ∧ a / binary64.one + 1 < n := by
  rw [Flanked, floor?_eq_some.mpr ⟨a, h, rfl⟩]
  constructor
  · rintro ⟨k, hk, hbounds⟩
    obtain rfl := Option.some.inj hk
    exact hbounds
  · intro hbounds
    exact ⟨_, rfl, hbounds⟩

/-- The bilinear sample of a point on the grid is a number exactly if the point has cells
on all sides. -/
theorem bilinear_within (hcells : ∀ v ∈ grid.cells, v.isFinite) (hrow : Within row grid.height)
    (hcolumn : Within column grid.width) :
    ∃ v, bilinear grid (column - half) (row - half) = .ok v ∧
      (v.isNaN = false ↔ Flanked row grid.height ∧ Flanked column grid.width) := by
  obtain ⟨a, ha⟩ := isFinite_iff.mp hrow.isFinite_sub_half
  obtain ⟨b, hb⟩ := isFinite_iff.mp hcolumn.isFinite_sub_half
  rw [flanked_iff ha, flanked_iff hb, ← corners?_isSome]
  cases h : corners? grid (a / binary64.one) (b / binary64.one) with
  | none =>
    have houtside := bilinear_outside (index_of_units ha) (index_of_units hb) h
    exact ⟨.nan, houtside, by simp⟩
  | some corners =>
    obtain ⟨x00, x01, x10, x11⟩ := corners
    obtain ⟨v, hv, hnan⟩ := bilinear_inside hcells ha hb h
    exact ⟨v, hv, by simp [hnan]⟩

end Sample

namespace Tile

open Sample

theorem sample_eq {tile : Tile} {grid : Grid} {lon lat column row : Double}
    (htile : tile.grid = some grid) (hlocate : tile.transform.locate lon lat = .ok (column, row))
    (method : Interpolation) :
    tile.sample lon lat method.name = sampleBy grid method column row := by
  simp only [sample, htile, Grid.sample, hlocate, Interpolation.ofName?_name, bind, Except.bind]

/-- Where a tile without voids has samples: by the nearest cell everywhere on the grid,
by the four surrounding cells where these are all on the grid. -/
theorem sample_within {tile : Tile} {grid : Grid} {lon lat column row : Double}
    (htile : tile.grid = some grid) (hcells : ∀ x ∈ grid.cells, x.isFinite)
    (hlocate : tile.transform.locate lon lat = .ok (column, row))
    (hrow : Within row grid.height) (hcolumn : Within column grid.width) :
    (∃ v, tile.sample lon lat Interpolation.nearest.name = .ok v ∧ v.isNaN = false) ∧
    (∃ v, tile.sample lon lat Interpolation.bilinear.name = .ok v ∧
      (v.isNaN = false ↔ Flanked row grid.height ∧ Flanked column grid.width)) ∧
    (grid.height ≤ 2 ^ 52 → (Flanked row grid.height ↔ Inset row grid.height)) ∧
    (grid.width ≤ 2 ^ 52 → (Flanked column grid.width ↔ Inset column grid.width)) := by
  rw [sample_eq htile hlocate, sample_eq htile hlocate]
  exact ⟨nearest_within hcells hrow hcolumn, bilinear_within hcells hrow hcolumn,
    fun h => flanked_iff_inset h hrow, fun h => flanked_iff_inset h hcolumn⟩

def square : Tile where
  name := "square.tif"
  grid := some ⟨[[1, 2], [3, 4]], 2, by simp, by simp⟩
  transform := ⟨1, 0, 0, 0, -1, 2⟩
  crs := none
  nodata := none

theorem locate_square : square.transform.locate 1 1 = .ok (1, 1) :=
  toOption_eq_some.mp (by decide +kernel)

/-- The point where the four cells meet. -/
theorem sample_within_square :
    (∃ v, square.sample 1 1 Interpolation.nearest.name = .ok v ∧ v.isNaN = false) ∧
    ∃ v, square.sample 1 1 Interpolation.bilinear.name = .ok v ∧ v.isNaN = false := by
  have hwithin : Within 1 2 := ⟨Format.binary64.one, by decide +kernel, by decide +kernel⟩
  have hflanked : Flanked 1 2 := ⟨0, by decide +kernel⟩
  obtain ⟨hnearest, ⟨v, hv, hnan⟩, -⟩ :=
    @sample_within square _ 1 1 1 1 rfl (by decide +kernel) locate_square hwithin hwithin
  exact ⟨hnearest, v, hv, hnan.mpr ⟨hflanked, hflanked⟩⟩

/-- The centre of a cell of the last row lies on the grid, but has no bilinear sample. -/
theorem sample_lastRow : ∃ grid row, square.grid = some grid ∧ (∀ x ∈ grid.cells, x.isFinite) ∧
    square.transform.locate half half = .ok (half, row) ∧ Within row grid.height ∧
    Within half grid.width ∧ square.sample half half Interpolation.bilinear.name = .ok .nan := by
  have hrow : Within (1 + half) 2 :=
    ⟨3 * Nat.pow 2 1073, by decide +kernel, by decide +kernel, by decide +kernel⟩
  have hcolumn : Within half 2 :=
    ⟨Nat.pow 2 1073, by decide +kernel, by decide +kernel, by decide +kernel⟩
  exact ⟨_, 1 + half, rfl, by decide +kernel, toOption_eq_some.mp (by decide +kernel), hrow, hcolumn,
    toOption_eq_some.mp (by decide +kernel)⟩

end Tile

end TerrainTiles
