import TerrainTiles.Proofs.Binary.Order
import TerrainTiles.Proofs.Raster.Sampling

/-!
# The range of a tile

The range of a tile is found by folding a selection over the cells that are numbers. What is
selected is one of the cells and stands in its order to all of them (`foldl_selects`), and
single precision is widened exactly, so no nearest sample lies outside of the range
(`range_bounds_nearest`). A nearest sample is read from the cell that its point falls in, by
the exact values of the pixel coordinates, and from nowhere else: before the first row or
column and beyond the last there is none.
-/

namespace TerrainTiles

open Binary Format

-- ---------------------------------------------------------------------------
-- Selections
-- ---------------------------------------------------------------------------

namespace Grid

/-- Of two numbers one is selected, and it stands in the relation to both. -/
structure Selects (select : Single → Single → Single) (R : Single → Single → Prop) : Prop where
  input : ∀ x y, select x y = x ∨ select x y = y
  first : ∀ x y, x.isNaN = false → y.isNaN = false → R (select x y) x
  second : ∀ x y, x.isNaN = false → y.isNaN = false → R (select x y) y
  trans : ∀ x y z, R x y → R y z → R x z

variable {select : Single → Single → Single} {R : Single → Single → Prop} {x y : Single}

theorem Selects.isNaN (h : Selects select R) (hx : x.isNaN = false) (hy : y.isNaN = false) :
    (select x y).isNaN = false := by
  rcases h.input x y with heq | heq <;> simpa [heq]

theorem selects_lesser : Selects lesser fun x y => x.le y = true where
  input x y := by
    unfold lesser
    split <;> simp
  first x y hx hy := by
    unfold lesser
    split
    · exact Binary.le_refl hx
    · next h => exact (le_or_lt hy hx).resolve_right h
  second x y hx hy := by
    unfold lesser
    split
    · next h => exact Binary.le_of_lt h
    · exact Binary.le_refl hy
  trans _ _ _ := Binary.le_trans

theorem selects_greater : Selects greater fun x y => y.le x = true where
  input x y := by
    unfold greater
    split <;> simp
  first x y hx hy := by
    unfold greater
    split
    · exact Binary.le_refl hx
    · next h => exact (le_or_lt hx hy).resolve_right h
  second x y hx hy := by
    unfold greater
    split
    · next h => exact Binary.le_of_lt h
    · exact Binary.le_refl hy
  trans _ _ _ h h' := Binary.le_trans h' h

/-- What is selected from a list is one of its numbers and stands in the relation to all. -/
theorem foldl_selects (h : Selects select R) (hrefl : ∀ x, x.isNaN = false → R x x)
    {rest : List Single} (hx : x.isNaN = false) (hrest : ∀ y ∈ rest, y.isNaN = false) :
    rest.foldl select x ∈ x :: rest ∧ ∀ y ∈ x :: rest, R (rest.foldl select x) y := by
  induction rest generalizing x with
  | nil => simpa using hrefl x hx
  | cons first rest ih =>
    have hfirst : first.isNaN = false := hrest first List.mem_cons_self
    obtain ⟨hmem, hall⟩ := ih (h.isNaN hx hfirst) fun y hy => hrest y (List.mem_cons_of_mem _ hy)
    have hselected : R (rest.foldl select (select x first)) (select x first) :=
      hall _ List.mem_cons_self
    rw [List.foldl_cons]
    constructor
    · rcases List.mem_cons.mp hmem with heq | hmem
      · rw [heq]
        rcases h.input x first with hinput | hinput <;> simp [hinput]
      · simp [hmem]
    · intro y hy
      simp only [List.mem_cons] at hy
      rcases hy with rfl | rfl | hy
      · exact h.trans _ _ _ hselected (h.first _ _ hx hfirst)
      · exact h.trans _ _ _ hselected (h.second _ _ hx hfirst)
      · exact hall y (List.mem_cons_of_mem _ hy)

-- ---------------------------------------------------------------------------
-- The range
-- ---------------------------------------------------------------------------

variable {grid : Grid} {least greatest : Single}

theorem mem_values : x ∈ grid.values ↔ x ∈ grid.cells ∧ x.isNaN = false := by
  simp [values]

theorem range?_eq_none_iff : grid.range? = none ↔ ∀ x ∈ grid.cells, x.isNaN = true := by
  have hempty : grid.range? = none ↔ grid.values = [] := by
    unfold range?
    split <;> simp_all
  rw [hempty]
  simp [values]

/-- Both ends of the range are values, and all values lie between them. -/
theorem range?_spec (h : grid.range? = some (least, greatest)) :
    least ∈ grid.values ∧ greatest ∈ grid.values ∧
      ∀ x ∈ grid.values, least.le x = true ∧ x.le greatest = true := by
  have hnumbers : ∀ x ∈ grid.values, x.isNaN = false := fun x hx => (mem_values.mp hx).2
  unfold range? at h
  split at h
  · cases h
  · next first rest hvalues =>
    cases h
    rw [hvalues] at hnumbers ⊢
    have hfirst : first.isNaN = false := hnumbers first List.mem_cons_self
    have hrest : ∀ y ∈ rest, y.isNaN = false := fun y hy => hnumbers y (List.mem_cons_of_mem _ hy)
    obtain ⟨hleast, hbelow⟩ := foldl_selects selects_lesser (fun _ => Binary.le_refl) hfirst hrest
    obtain ⟨hgreatest, habove⟩ :=
      foldl_selects selects_greater (fun _ => Binary.le_refl) hfirst hrest
    exact ⟨hleast, hgreatest, fun x hx => ⟨hbelow x hx, habove x hx⟩⟩

end Grid

-- ---------------------------------------------------------------------------
-- Nearest samples
-- ---------------------------------------------------------------------------

namespace Sample

variable {grid : Grid} {column row : Double} {a b : Int}

theorem le_widen {x y : Single} (h : x.le y = true) : (widen x).le (widen y) = true :=
  le_convert widens_binary64 h

/-- The coordinate falls in the row or column of that index. -/
def FallsIn (x : Double) (i : Nat) : Prop :=
  ∃ a, x.toUnits? = some a ∧ i * binary64.one ≤ a ∧ a < (i + 1) * binary64.one

theorem within_iff {x : Double} {n : Nat} (hx : x.toUnits? = some a) :
    Within x n ↔ 0 ≤ a / (binary64.one : Int) ∧ a / (binary64.one : Int) < n := by
  have hpos : (0 : Int) < binary64.one := Int.natCast_pos.mpr binary64.one_pos
  rw [Int.ediv_nonneg_iff_of_pos hpos, Int.ediv_lt_iff_lt_mul hpos]
  constructor
  · rintro ⟨b, hb, hbounds⟩
    cases hx.symm.trans hb
    exact hbounds
  · intro hbounds
    exact ⟨a, hx, hbounds⟩

theorem fallsIn_of_floor {x : Double} {i : Nat} (hx : x.toUnits? = some a)
    (hi : a / (binary64.one : Int) = i) : FallsIn x i := by
  have hpos : (0 : Int) < binary64.one := Int.natCast_pos.mpr binary64.one_pos
  refine ⟨a, hx, ?_, ?_⟩
  · exact (Int.le_ediv_iff_mul_le hpos).mp hi.ge
  · exact (Int.ediv_lt_iff_lt_mul hpos).mp (by omega)

/-- What a nearest sample can be: a cell of the grid, the one that the point falls in, or
not-a-number if the point does not lie on the grid. -/
inductive Reads (grid : Grid) (column row : Double) : Double → Prop where
  | cell {i j : Nat} {x : Single} (hrow : FallsIn row i) (hcolumn : FallsIn column j)
      (hx : grid.cell? i j = some x) : Reads grid column row (widen x)
  | outside (h : ¬ (Within row grid.height ∧ Within column grid.width)) :
      Reads grid column row .nan

theorem reads_nearest (ha : row.toUnits? = some a) (hb : column.toUnits? = some b) :
    ∃ v, nearest grid column row = .ok v ∧ Reads grid column row v := by
  have hr := index_of_units ha
  have hc := index_of_units hb
  by_cases hin : Within row grid.height ∧ Within column grid.width
  · obtain ⟨hrow, hcolumn⟩ := And.imp (within_iff ha).mp (within_iff hb).mp hin
    obtain ⟨x, hx⟩ := Option.isSome_iff_exists.mp (cellAt?_isSome.mpr ⟨hrow, hcolumn⟩)
    refine ⟨widen x, nearest_of_cell hr hc hx, ?_⟩
    unfold cellAt? at hx
    rw [if_pos ⟨hrow.1, hcolumn.1⟩] at hx
    refine .cell (fallsIn_of_floor ha ?_) (fallsIn_of_floor hb ?_) hx
    · exact (Int.toNat_of_nonneg hrow.1).symm
    · exact (Int.toNat_of_nonneg hcolumn.1).symm
  · have hnone : cellAt? grid (a / binary64.one) (b / binary64.one) = none := by
      refine Option.not_isSome_iff_eq_none.mp fun hsome => hin ?_
      obtain ⟨hrow, hcolumn⟩ := cellAt?_isSome.mp hsome
      exact ⟨(within_iff ha).mpr hrow, (within_iff hb).mpr hcolumn⟩
    refine ⟨.nan, ?_, .outside hin⟩
    simp only [nearest, hr, hc, hnone, bind, Except.bind, pure, Except.pure]

theorem Reads.exists_cell {v : Double} (h : Reads grid column row v) (hv : v.isNaN = false) :
    ∃ x ∈ grid.cells, x.isNaN = false ∧ v = widen x := by
  cases h with
  | cell hrow hcolumn hx =>
    refine ⟨_, grid.mem_cells_of_cell? hx, ?_, rfl⟩
    rwa [widen, isNaN_convert] at hv
  | outside => cases hv

theorem FallsIn.within {x : Double} {i n : Nat} (h : FallsIn x i) (hi : i < n) : Within x n := by
  obtain ⟨a, hx, hle, hlt⟩ := h
  have hnonneg : (0 : Int) ≤ i * binary64.one :=
    Int.mul_nonneg (Int.natCast_nonneg i) (Int.natCast_nonneg _)
  refine ⟨a, hx, le_trans hnonneg hle, lt_of_lt_of_le hlt ?_⟩
  exact_mod_cast Nat.mul_le_mul_right binary64.one hi

theorem Reads.eq_nan_of_outside {v : Double} (h : Reads grid column row v)
    (hout : ¬ (Within row grid.height ∧ Within column grid.width)) : v = .nan := by
  cases h with
  | cell hrow hcolumn hx =>
    obtain ⟨hi, hj⟩ := (grid.cell?_isSome _ _).mp (Option.isSome_of_eq_some hx)
    exact absurd ⟨hrow.within hi, hcolumn.within hj⟩ hout
  | outside => rfl

theorem Reads.eq_nan {v : Double} (h : Reads grid column row v)
    (hvoid : ∀ x ∈ grid.cells, x.isNaN = true) : v = .nan := by
  cases h with
  | @cell i j x hrow hcolumn hx =>
    have hnan := hvoid x (grid.mem_cells_of_cell? hx)
    cases x <;> simp [Binary.isNaN] at hnan
    rfl
  | outside => rfl

end Sample

-- ---------------------------------------------------------------------------
-- Tiles
-- ---------------------------------------------------------------------------

namespace Tile

open Sample

theorem sample_reads {tile : Tile} {grid : Grid} (htile : tile.grid = some grid)
    {lon lat column row : Double} (hlocate : tile.transform.locate lon lat = .ok (column, row))
    (hcolumn : column.isFinite) (hrow : row.isFinite) :
    ∃ v, tile.sample lon lat Interpolation.nearest.name = .ok v ∧ Reads grid column row v := by
  obtain ⟨b, hb⟩ := isFinite_iff.mp hcolumn
  obtain ⟨a, ha⟩ := isFinite_iff.mp hrow
  rw [sample_eq htile hlocate]
  exact reads_nearest ha hb

/-- The range of a tile with values goes from one of them to another that is not below it, and
bounds all nearest samples that are numbers; without values it is zero and there are no such
samples. A nearest sample is read from the cell of the grid that its point falls in, or the
point does not lie on the grid and there is none. -/
theorem range_bounds_nearest {tile : Tile} {grid : Grid} (htile : tile.grid = some grid) :
    ((∃ x ∈ grid.cells, x.isNaN = false) →
      (∃ x ∈ grid.cells, x.isNaN = false ∧ tile.range.1 = widen x) ∧
      (∃ x ∈ grid.cells, x.isNaN = false ∧ tile.range.2 = widen x) ∧
      tile.range.1.le tile.range.2 = true) ∧
    ((∀ x ∈ grid.cells, x.isNaN = true) → tile.range = (0, 0)) ∧
    ∀ lon lat column row, tile.transform.locate lon lat = .ok (column, row) →
      column.isFinite → row.isFinite →
      ∃ v, tile.sample lon lat Interpolation.nearest.name = .ok v ∧
        Reads grid column row v ∧
        (v.isNaN = false → tile.range.1.le v = true ∧ v.le tile.range.2 = true) ∧
        ((∀ x ∈ grid.cells, x.isNaN = true) → v = .nan) := by
  cases hrange : grid.range? with
  | none =>
    have hvoid := Grid.range?_eq_none_iff.mp hrange
    refine ⟨?ends, ?zero, ?samples⟩
    case ends =>
      rintro ⟨x, hx, hnumber⟩
      simp [hvoid x hx] at hnumber
    case zero =>
      intro _
      simp [range, htile, hrange]
    case samples =>
      intro lon lat column row hlocate hcolumn hrow
      obtain ⟨v, hv, hreads⟩ := sample_reads htile hlocate hcolumn hrow
      have hnan := hreads.eq_nan hvoid
      exact ⟨v, hv, hreads, by simp [hnan], fun _ => hnan⟩
  | some ends =>
    obtain ⟨least, greatest⟩ := ends
    obtain ⟨hleast, hgreatest, hbetween⟩ := Grid.range?_spec hrange
    have hends : tile.range = (widen least, widen greatest) := by simp [range, htile, hrange]
    rw [hends]
    refine ⟨fun _ => ⟨?least, ?greatest, ?order⟩, ?zero, ?samples⟩
    case least =>
      exact ⟨least, (Grid.mem_values.mp hleast).1, (Grid.mem_values.mp hleast).2, rfl⟩
    case greatest =>
      exact ⟨greatest, (Grid.mem_values.mp hgreatest).1, (Grid.mem_values.mp hgreatest).2, rfl⟩
    case order => exact le_widen (hbetween greatest hgreatest).1
    case zero =>
      intro hvoid
      rw [Grid.range?_eq_none_iff.mpr hvoid] at hrange
      cases hrange
    case samples =>
      intro lon lat column row hlocate hcolumn hrow
      obtain ⟨v, hv, hreads⟩ := sample_reads htile hlocate hcolumn hrow
      refine ⟨v, hv, hreads, fun hnumber => ?_, hreads.eq_nan⟩
      obtain ⟨x, hx, hnan, rfl⟩ := hreads.exists_cell hnumber
      obtain ⟨hlow, hhigh⟩ := hbetween x (Grid.mem_values.mpr ⟨hx, hnan⟩)
      exact ⟨le_widen hlow, le_widen hhigh⟩

def notched : Tile where
  name := "notched.tif"
  grid := some ⟨[[1, .nan], [3, 4]], 2, by decide, by decide⟩
  transform := ⟨1, 0, 0, 0, -1, 2⟩
  crs := none
  nodata := none

/-- The last cell lies between the ends of the range; a point one cell to the left of the first
column does not take the last column's cell for its own. -/
theorem range_bounds_nearest_notched :
    (∃ v, notched.sample 1 1 Interpolation.nearest.name = .ok v ∧ v.isNaN = false ∧
      notched.range.1.le v = true ∧ v.le notched.range.2 = true) ∧
    notched.sample (-1) 1 Interpolation.nearest.name = .ok .nan := by
  obtain ⟨-, -, hsamples⟩ := @range_bounds_nearest notched _ rfl
  constructor
  · have hlocate : notched.transform.locate 1 1 = .ok (1, 1) := toOption_eq_some.mp (by decide +kernel)
    obtain ⟨v, hv, -, hbounds, -⟩ :=
      hsamples 1 1 1 1 hlocate (by decide +kernel) (by decide +kernel)
    have hfour : notched.sample 1 1 Interpolation.nearest.name = .ok 4 :=
      toOption_eq_some.mp (by decide +kernel)
    have hnumber : v.isNaN = false := by
      rw [show v = 4 from Except.ok.inj (hv.symm.trans hfour)]
      decide +kernel
    exact ⟨v, hv, hnumber, hbounds hnumber⟩
  · have hlocate : notched.transform.locate (-1) 1 = .ok (-1, 1) :=
      toOption_eq_some.mp (by decide +kernel)
    obtain ⟨v, hv, hreads, -⟩ := hsamples (-1) 1 (-1) 1 hlocate (by decide +kernel)
      (by decide +kernel)
    have hleft : ¬ Within (-1) 2 := by
      rintro ⟨a, ha, hnonneg, -⟩
      have hunits : (-1 : Double).toUnits? = some (-(binary64.one : Int)) :=
        units_neg (units_one (by decide))
      have hpos : (0 : Int) < binary64.one := Int.natCast_pos.mpr binary64.one_pos
      have ha' : -(binary64.one : Int) = a := Option.some.inj (hunits.symm.trans ha)
      omega
    rw [hv, hreads.eq_nan_of_outside fun h => hleft h.2]

end Tile

end TerrainTiles
