import TerrainTiles.Proofs.Binary.Division
import TerrainTiles.Proofs.Source.Coverage

/-!
# Footprints

An index names a cell of the source's grid. Columns and rows stop at the last of them, so
their cells stay inside the bounds; a corner on the far edge of the bounds names a cell
beyond it (`footprint_inside_iff`).

Columns and rows are counted in double precision. Dividing by the size of a cell keeps a
number between the integers it lies between, but the sum before it can be rounded up to
an edge that the point has not reached (`Oversteps`), and then the index names the next
cell (`footprint_encloses_iff`). The point misses that cell by less than `2 ^ -44` degrees.
-/

namespace TerrainTiles

open Format (binary64)

-- ---------------------------------------------------------------------------
-- Sums
-- ---------------------------------------------------------------------------

namespace Binary

variable {x y : Double} {a b : Int} {n m : Nat}

/-- The exact sum is short of the edge, and the rounded sum lies on it. -/
def Oversteps (x y : Double) (edge : Int) : Prop :=
  ∃ a b, x.toUnits? = some a ∧ y.toUnits? = some b ∧ a + b < edge * binary64.one ∧
    (x + y).toUnits? = some (edge * binary64.one)

theorem not_oversteps_of_fits (hx : x.toUnits? = some a) (hy : y.toUnits? = some b)
    (h : binary64.Fits (a + b).natAbs) (edge : Int) : ¬Oversteps x y edge := by
  rintro ⟨a', b', hx', hy', hlt, hsum⟩
  obtain rfl := Option.some.inj (hx.symm.trans hx')
  obtain rfl := Option.some.inj (hy.symm.trans hy')
  rw [units_add_of_fits hx hy h] at hsum
  exact absurd (Option.some.inj hsum) (Int.ne_of_lt hlt)

theorem units_add_nat (hx : x.toUnits? = some a) (hy : y.toUnits? = some b) (h0 : 0 ≤ a + b)
    (hn : binary64.Fits n) (h1 : a + b ≤ n) :
    ∃ m : Nat, (x + y).toUnits? = some (m : Int) ∧ m ≤ n := by
  have hzero : binary64.Fits (0 : Int).natAbs := binary64.fits_zero
  obtain ⟨c, hc, hlow, hhigh⟩ := units_add hx hy hzero (by rwa [Int.natAbs_natCast]) h0 h1
  obtain ⟨m, rfl⟩ := Int.eq_ofNat_of_zero_le hlow
  exact ⟨m, hc, by omega⟩

theorem sum_le (hx : x.toUnits? = some a) (hy : y.toUnits? = some b)
    (hsum : (x + y).toUnits? = some (m : Int)) (h0 : 0 ≤ a + b) (hn : binary64.Fits n)
    (h : a + b ≤ n) : m ≤ n := by
  obtain ⟨c, hc, hle⟩ := units_add_nat hx hy h0 hn h
  obtain rfl : m = c := by exact_mod_cast Option.some.inj (hsum.symm.trans hc)
  exact hle

theorem le_sum (hx : x.toUnits? = some a) (hy : y.toUnits? = some b)
    (hsum : (x + y).toUnits? = some (m : Int)) {k : Nat} (hk : binary64.Fits k)
    (hn : binary64.Fits n) (h : (k : Int) ≤ a + b) (h1 : a + b ≤ n) : k ≤ m := by
  obtain ⟨c, hc, hle, -⟩ := units_add hx hy (by rwa [Int.natAbs_natCast])
    (by rwa [Int.natAbs_natCast]) h h1
  obtain rfl : (m : Int) = c := Option.some.inj (hsum.symm.trans hc)
  exact_mod_cast hle

theorem oversteps_iff (hx : x.toUnits? = some a) (hy : y.toUnits? = some b)
    (hsum : (x + y).toUnits? = some (m : Int)) {edge : Nat} :
    Oversteps x y edge ↔ a + b < (edge * binary64.one : Nat) ∧ m = edge * binary64.one := by
  rw [Int.natCast_mul]
  constructor
  · rintro ⟨a', b', hx', hy', hlt, hedge⟩
    obtain rfl := Option.some.inj (hx.symm.trans hx')
    obtain rfl := Option.some.inj (hy.symm.trans hy')
    have hm := Option.some.inj (hsum.symm.trans hedge)
    rw [← Int.natCast_mul] at hm
    exact ⟨hlt, Int.ofNat_inj.mp hm⟩
  · rintro ⟨hlt, hm⟩
    rw [hm, Int.natCast_mul] at hsum
    exact ⟨a, b, hx, hy, hlt, hsum⟩

/-- The gap between numbers from 256 on and below 512, in units: `2 ^ -44`. -/
def hairline : Nat := binary64.gap (256 * binary64.one)

theorem hairline_pos : 0 < hairline := binary64.gap_pos _

theorem fits_sub_hairline (h : n < 2 ^ 9) : binary64.Fits (n * binary64.one - hairline) := by
  have hone : binary64.one = 2 ^ 44 * hairline := by decide +kernel
  have heq : n * binary64.one - hairline =
      (n * 2 ^ 44 - 1) * 2 ^ binary64.gapExponent (256 * binary64.one) := by
    rw [← Format.gap_eq, ← hairline, hone, ← Nat.mul_assoc, ← Nat.sub_one_mul]
  have hbound : n * binary64.one < binary64.bound :=
    (Format.fits_mul_one (by decide) (Nat.lt_trans h (by decide))).2
  have hle : n * binary64.one - hairline ≤ n * binary64.one := Nat.sub_le ..
  rw [heq] at hle ⊢
  have hsmall : n * 2 ^ 44 - 1 < 2 ^ 53 := by omega
  exact Format.fits_mul_pow hsmall (Nat.lt_of_le_of_lt hle hbound)

/-- A sum that is rounded to an integer edge is short of it by less than a hairline. -/
theorem edge_lt (hx : x.toUnits? = some a) (hy : y.toUnits? = some b) (h0 : 0 ≤ a + b)
    (hsum : (x + y).toUnits? = some (m : Int)) (hn : n < 2 ^ 9) (h : n * binary64.one ≤ m) :
    (n * binary64.one : Nat) < a + b + hairline := by
  have hpos := hairline_pos
  by_contra hshort
  have hle := sum_le hx hy hsum h0 (fits_sub_hairline hn) (by omega)
  omega

end Binary

open Binary (Oversteps hairline)

-- ---------------------------------------------------------------------------
-- Cells
-- ---------------------------------------------------------------------------

namespace Bounds

def Inside (inner outer : Bounds) : Prop :=
  outer.west ≤ inner.west ∧ outer.south ≤ inner.south ∧
    inner.east ≤ outer.east ∧ inner.north ≤ outer.north

instance (inner outer : Bounds) : Decidable (inner.Inside outer) := by
  unfold Inside
  infer_instance

/-- The bounds enclose the point once all edges are moved outwards by `slack` units. -/
def EnclosesWithin (slack : Int) (bounds : Bounds) (lon lat : Double) : Prop :=
  ∃ a b, lon.toUnits? = some a ∧ lat.toUnits? = some b ∧
    bounds.west * binary64.one - slack ≤ a ∧ a ≤ bounds.east * binary64.one + slack ∧
    bounds.south * binary64.one - slack ≤ b ∧ b ≤ bounds.north * binary64.one + slack

end Bounds

namespace Source

variable {source : Source} {lon lat x y : Double} {a b : Int} {size count : Nat}

/-- The cell of the grid that an index names. -/
def footprint (source : Source) (index : TileIndex) : Bounds :=
  match source.naming with
  | .columnRow =>
    { west := -180 + source.degrees * (index.1 - 1), south := 60 - source.degrees * index.2
      east := -180 + source.degrees * index.1, north := 60 - source.degrees * (index.2 - 1) }
  | .corner =>
    { west := index.2, south := index.1
      east := index.2 + source.degrees, north := index.1 + source.degrees }

def cell (sum : Double) (size : Nat) (count : Int) : Int :=
  min (floor (sum / .ofInt size) + 1) count

theorem indexAt_columnRow (h : source.naming = .columnRow) : source.indexAt lon lat =
    (cell (lon + 180) source.degrees source.columns,
      cell (60 - lat) source.degrees source.rows) := by
  simp only [indexAt, h, cell]

theorem indexAt_corner (h : source.naming = .corner) :
    source.indexAt lon lat = (floor lat, floor lon) := by
  simp only [indexAt, h]

theorem floor_of_units (h : x.toUnits? = some a) : floor x = a / (binary64.one : Int) := by
  rw [floor, Binary.floor?_eq_some.mpr ⟨a, h, rfl⟩]
  rfl

theorem cell_of_units {z : Double} {m : Nat} (hz : z.toUnits? = some (m : Int))
    (hm : m < 2 ^ binary64.precision * binary64.one) (hsize : 0 < size)
    (hsize' : size < 2 ^ binary64.precision) :
    cell z size count = min ((m / (size * binary64.one) : Nat) + 1 : Int) count := by
  rw [cell, floor, Binary.floor?_div (by decide) (by decide) hz hm hsize hsize', Option.getD_some]

/-- A count `m` that stands for `s` and crosses no edge falls in the cell of `s`, except that
it may have reached the edge where this cell ends. -/
theorem cell_of_rounded {s : Int} {m d : Nat} (hd : 0 < d) (hcount : 0 < count)
    (h1 : s ≤ (count * d : Nat)) (hm : m ≤ count * d)
    (upper : ∀ j : Nat, j ≤ count → s ≤ (j * d : Nat) → m ≤ j * d)
    (lower : ∀ j : Nat, j ≤ count → (j * d : Nat) ≤ s → j * d ≤ m) :
    ∃ k : Nat, min ((m / d : Nat) + 1 : Int) count = k + 1 ∧ k < count ∧ k * d ≤ m ∧
      s ≤ ((k + 1) * d : Nat) ∧
      (s < (k * d : Nat) ↔ ∃ j : Nat, j < count ∧ s < (j * d : Nat) ∧ m = j * d) := by
  rcases Nat.lt_or_ge (m / d) count with hlt | hge
  · generalize hq : m / d = q at hlt
    have hnext : q + 1 ≤ count := hlt
    have hlow : q * d ≤ m := hq ▸ Nat.div_mul_le_self m d
    have hhigh : m < (q + 1) * d := hq ▸ Nat.lt_mul_of_div_lt (Nat.lt_succ_self _) hd
    refine ⟨q, by omega, hlt, hlow, ?_, ?_, ?_⟩
    · by_contra hpast
      exact absurd (lower _ hnext (by omega)) (Nat.not_le_of_lt hhigh)
    · intro hshort
      exact ⟨q, hlt, hshort,
        Nat.le_antisymm (upper q (Nat.le_of_lt hlt) (Int.le_of_lt hshort)) hlow⟩
    · rintro ⟨j, -, hshort, rfl⟩
      rw [Nat.mul_div_cancel _ hd] at hq
      rwa [← hq]
  · -- The count reached the far edge, which is kept in the last cell.
    have hend : m = count * d := Nat.le_antisymm hm ((Nat.le_div_iff_mul_le hd).mp hge)
    obtain ⟨k, rfl⟩ : ∃ k, count = k + 1 := Nat.exists_eq_succ_of_ne_zero (Nat.ne_of_gt hcount)
    have hstep : k * d < m := hend ▸ Nat.mul_lt_mul_of_pos_right (Nat.lt_succ_self k) hd
    have hbegin : (k * d : Nat) ≤ s := by
      by_contra hshort
      exact absurd (upper k (Nat.le_succ k) (by omega)) (Nat.not_le_of_lt hstep)
    refine ⟨k, by omega, Nat.lt_succ_self k, Nat.le_of_lt hstep, h1,
      iff_of_false (Int.not_lt.mpr hbegin) ?_⟩
    rintro ⟨j, hj, -, hm⟩
    exact absurd (Nat.eq_of_mul_eq_mul_right hd (hend.symm.trans hm)) (Nat.ne_of_gt hj)

/-- The cell is one of the grid and ends at or after the exact sum. It begins after the sum
only if the rounded sum oversteps an edge, and then by less than a hairline. -/
theorem cell_spec (hx : x.toUnits? = some a) (hy : y.toUnits? = some b) (hsize : 0 < size)
    (hsmall : count * size < 2 ^ 9) (hcount : 0 < count) (h0 : 0 ≤ a + b)
    (h1 : a + b ≤ (count * size * binary64.one : Nat)) :
    ∃ k : Nat, cell (x + y) size count = k + 1 ∧ k < count ∧
      a + b ≤ ((k + 1) * size * binary64.one : Nat) ∧
      (a + b < (k * size * binary64.one : Nat) ↔
        ∃ j : Nat, j < count ∧ Oversteps x y (j * size : Nat)) ∧
      ((k * size * binary64.one : Nat) : Int) < a + b + hairline := by
  have small {j : Nat} (hj : j ≤ count) : j * size < 2 ^ 9 :=
    Nat.lt_of_le_of_lt (Nat.mul_le_mul_right size hj) hsmall
  have hprecision : 2 ^ 9 < 2 ^ binary64.precision := by decide
  have fits {j : Nat} (hj : j ≤ count) : binary64.Fits (j * size * binary64.one) :=
    Format.fits_mul_one (by decide) (Nat.lt_trans (small hj) hprecision)
  obtain ⟨m, hsum, hm⟩ := Binary.units_add_nat hx hy h0 (fits (Nat.le_refl _)) h1
  have hcell : cell (x + y) size count =
      min ((m / (size * binary64.one) : Nat) + 1 : Int) count := by
    refine cell_of_units hsum ?_ hsize ?_
    · calc m ≤ count * size * binary64.one := hm
        _ < 2 ^ binary64.precision * binary64.one :=
          Nat.mul_lt_mul_of_pos_right (Nat.lt_trans hsmall hprecision) binary64.one_pos
    · have hle : 1 * size < 2 ^ 9 := small hcount
      rw [Nat.one_mul] at hle
      exact Nat.lt_trans hle hprecision
  have upper (j : Nat) (hj : j ≤ count) (h : a + b ≤ (j * (size * binary64.one) : Nat)) :
      m ≤ j * (size * binary64.one) := by
    rw [← Nat.mul_assoc] at h ⊢
    exact Binary.sum_le hx hy hsum h0 (fits hj) h
  have lower (j : Nat) (hj : j ≤ count) (h : (j * (size * binary64.one) : Nat) ≤ a + b) :
      j * (size * binary64.one) ≤ m := by
    rw [← Nat.mul_assoc] at h ⊢
    exact Binary.le_sum hx hy hsum (fits hj) (fits (Nat.le_refl _)) h h1
  rw [Nat.mul_assoc] at h1 hm
  obtain ⟨k, hk, hlt, hlow, hend, hbegin⟩ :=
    cell_of_rounded (Nat.mul_pos hsize binary64.one_pos) hcount h1 hm upper lower
  simp only [← Nat.mul_assoc] at hlow hend hbegin
  refine ⟨k, hcell.trans hk, hlt, hend, ?_, ?_⟩
  · simp only [Binary.oversteps_iff hx hy hsum]
    exact hbegin
  · exact Binary.edge_lt hx hy h0 hsum (small (Nat.le_of_lt hlt)) hlow

theorem columnRow_grid (h : source ∈ all) (hnaming : source.naming = .columnRow) :
    source.degrees = 5 ∧ source.columns = (72 : Nat) ∧ source.rows = (24 : Nat) ∧
      source.bounds = ⟨-180, -60, 180, 60⟩ := by
  revert source
  decide

theorem degrees_corner (h : source ∈ all) (hnaming : source.naming = .corner) :
    source.degrees = 1 := by
  revert source
  decide

theorem units_degrees {n : Nat} (h : n < 2 ^ 9) :
    (.ofInt n : Double).toUnits? = some (n * binary64.one : Int) :=
  Binary.units_ofInt (Format.fits_mul_one (by decide) (Nat.lt_trans h (by decide)))

theorem column_spec (hlon : lon.Between (-180) 180) :
    ∃ k : Int, ∃ a, cell (lon + 180) 5 (72 : Nat) = k ∧ 1 ≤ k ∧ k ≤ 72 ∧ lon.toUnits? = some a ∧
      a ≤ (-180 + 5 * k) * binary64.one ∧
      (a < (-180 + 5 * (k - 1)) * binary64.one ↔
        ∃ j : Nat, j < 72 ∧ Oversteps lon 180 (j * 5 : Nat)) ∧
      (-180 + 5 * (k - 1)) * binary64.one - hairline ≤ a := by
  obtain ⟨a, ha, hwest, heast⟩ := hlon
  have h180 : (180 : Double).toUnits? = some ((180 : Nat) * binary64.one : Int) :=
    units_degrees (by decide)
  obtain ⟨k, hk, hlt, hend, hbegin, hslack⟩ :=
    cell_spec ha h180 (by decide : 0 < 5) (by decide : 72 * 5 < 2 ^ 9) (by decide)
      (by omega) (by omega)
  have hstart : (-180 + 5 * ((k : Int) + 1 - 1)) * binary64.one =
      (k * 5 * binary64.one : Nat) - (180 : Nat) * (binary64.one : Int) := by
    push_cast
    ring
  have hstop : (-180 + 5 * ((k : Int) + 1)) * binary64.one =
      ((k + 1) * 5 * binary64.one : Nat) - (180 : Nat) * (binary64.one : Int) := by
    push_cast
    ring
  refine ⟨k + 1, a, hk, by omega, by omega, ha, ?_, ?_, ?_⟩
  · rw [hstop]
    omega
  · rw [hstart, ← hbegin]
    omega
  · rw [hstart]
    omega

theorem row_spec (hlat : lat.Between (-60) 60) :
    ∃ k : Int, ∃ b, cell (60 - lat) 5 (24 : Nat) = k ∧ 1 ≤ k ∧ k ≤ 24 ∧ lat.toUnits? = some b ∧
      (60 - 5 * k) * binary64.one ≤ b ∧
      ((60 - 5 * (k - 1)) * binary64.one < b ↔
        ∃ j : Nat, j < 24 ∧ Oversteps 60 (-lat) (j * 5 : Nat)) ∧
      b ≤ (60 - 5 * (k - 1)) * binary64.one + hairline := by
  obtain ⟨b, hb, hsouth, hnorth⟩ := hlat
  have h60 : (60 : Double).toUnits? = some ((60 : Nat) * binary64.one : Int) :=
    units_degrees (by decide)
  obtain ⟨k, hk, hlt, hend, hbegin, hslack⟩ :=
    cell_spec h60 (Binary.units_neg hb) (by decide : 0 < 5) (by decide : 24 * 5 < 2 ^ 9)
      (by decide) (by omega) (by omega)
  have hstart : (60 - 5 * ((k : Int) + 1 - 1)) * binary64.one =
      (60 : Nat) * (binary64.one : Int) - (k * 5 * binary64.one : Nat) := by
    push_cast
    ring
  have hstop : (60 - 5 * ((k : Int) + 1)) * binary64.one =
      (60 : Nat) * (binary64.one : Int) - ((k + 1) * 5 * binary64.one : Nat) := by
    push_cast
    ring
  refine ⟨k + 1, b, hk, by omega, by omega, hb, ?_, ?_, ?_⟩
  · rw [hstop]
    omega
  · rw [hstart, ← hbegin]
    omega
  · rw [hstart]
    omega

theorem le_floor_iff (hx : x.toUnits? = some a) {n : Int} :
    n ≤ floor x ↔ n * binary64.one ≤ a := by
  rw [floor_of_units hx]
  exact Int.le_ediv_iff_mul_le (Int.natCast_pos.mpr binary64.one_pos)

theorem floor_lt_iff (hx : x.toUnits? = some a) {n : Int} :
    floor x < n ↔ a < n * binary64.one := by
  rw [floor_of_units hx]
  exact Int.ediv_lt_iff_lt_mul (Int.natCast_pos.mpr binary64.one_pos)

theorem floor_lt_edge_iff {n : Int} (hn : n.natAbs < 2 ^ 53) (hx : x.toUnits? = some a)
    (hle : a ≤ n * binary64.one) : floor x < n ↔ x.eq (.ofInt n) = false := by
  have hedge : (.ofInt n : Double).toUnits? = some (n * binary64.one) :=
    Binary.units_ofInt (Format.fits_mul_one (by decide) hn)
  rw [floor_lt_iff hx, ← Bool.not_eq_true, Binary.eq_iff hx hedge]
  omega

-- ---------------------------------------------------------------------------
-- Footprints
-- ---------------------------------------------------------------------------

/-- A point inside the bounds gets a cell inside them, unless its corner lies on the far
edge: the last columns and rows are closed, the last corners are not. -/
theorem footprint_inside_iff (h : source ∈ all) (hin : source.bounds.contains lon lat = true) :
    ∃ index, source.index lon lat = .ok index ∧
      ((source.footprint index).Inside source.bounds ↔ (source.naming = .corner →
        lon.eq (.ofInt source.bounds.east) = false ∧
          lat.eq (.ofInt source.bounds.north) = false)) := by
  have hexact := isExact_bounds h
  obtain ⟨hlon, hlat⟩ := (Bounds.contains_iff hexact).mp hin
  refine ⟨_, if_pos hin, ?_⟩
  cases hnaming : source.naming with
  | columnRow =>
    obtain ⟨hdegrees, hcolumns, hrows, hbounds⟩ := columnRow_grid h hnaming
    rw [hbounds] at hlon hlat ⊢
    obtain ⟨column, _, hcolumn, hfirst, hlast, -⟩ := column_spec hlon
    obtain ⟨row, _, hrow, hfirst', hlast', -⟩ := row_spec hlat
    rw [indexAt_columnRow hnaming, hdegrees, hcolumns, hrows, hcolumn, hrow]
    refine iff_of_true ?_ (fun hcorner => by cases hcorner)
    simp only [footprint, hnaming, hdegrees, Bounds.Inside]
    omega
  | corner =>
    obtain ⟨a, ha, hwest, heast⟩ := hlon
    obtain ⟨b, hb, hsouth, hnorth⟩ := hlat
    have hleft := (le_floor_iff ha).mpr hwest
    have hbottom := (le_floor_iff hb).mpr hsouth
    rw [indexAt_corner hnaming, ← floor_lt_edge_iff hexact.east ha heast,
      ← floor_lt_edge_iff hexact.north hb hnorth]
    simp only [footprint, hnaming, degrees_corner h hnaming, Bounds.Inside, forall_const]
    omega

/-- The south-eastern corner of the grid belongs to the last column and row; of the named
corners the last ones before the far edges have their cells inside. -/
theorem footprint_inside_farCorner :
    (∃ index, srtm3.index 180 (-60) = .ok index ∧
      (srtm3.footprint index).Inside srtm3.bounds) ∧
    ∃ index, srtm1.index 179 59 = .ok index ∧ (srtm1.footprint index).Inside srtm1.bounds := by
  have hin : srtm3.bounds.contains 180 (-60) = true := by decide +kernel
  have hin' : srtm1.bounds.contains 179 59 = true := by decide +kernel
  obtain ⟨index, hindex, hinside⟩ := footprint_inside_iff (by simp [all]) hin
  obtain ⟨index', hindex', hinside'⟩ := footprint_inside_iff (by simp [all]) hin'
  refine ⟨⟨index, hindex, hinside.mpr fun hcorner => absurd hcorner (by decide)⟩,
    index', hindex', hinside'.mpr fun _ => ?_⟩
  exact ⟨by decide +kernel, by decide +kernel⟩

/-- A point on the northern edge is given the corner of a cell beyond it. -/
theorem footprint_beyond : srtm1.bounds.contains 7 60 = true ∧
    srtm1.index 7 60 = .ok (60, 7) ∧ ¬(srtm1.footprint (60, 7)).Inside srtm1.bounds :=
  ⟨by decide +kernel, toOption_eq_some.mp (by decide +kernel), by decide⟩

/-- A sum is rounded up to an edge between two columns or two rows. -/
def OverstepsEdge (source : Source) (lon lat : Double) : Prop :=
  source.naming = .columnRow ∧
    ((∃ j : Nat, j < source.columns ∧ Oversteps lon 180 (j * source.degrees : Nat)) ∨
      ∃ j : Nat, j < source.rows ∧ Oversteps 60 (-lat) (j * source.degrees : Nat))

/-- The cell of a point encloses it, unless an edge was overstepped; then it misses the point
by less than a hairline. -/
theorem footprint_encloses_iff (h : source ∈ all)
    (hin : source.bounds.contains lon lat = true) :
    ∃ index, source.index lon lat = .ok index ∧
      ((source.footprint index).Encloses lon lat ↔ ¬source.OverstepsEdge lon lat) ∧
      (source.footprint index).EnclosesWithin hairline lon lat := by
  have hexact := isExact_bounds h
  have hpos := Binary.hairline_pos
  obtain ⟨hlon, hlat⟩ := (Bounds.contains_iff hexact).mp hin
  refine ⟨_, if_pos hin, ?_⟩
  cases hnaming : source.naming with
  | columnRow =>
    obtain ⟨hdegrees, hcolumns, hrows, hbounds⟩ := columnRow_grid h hnaming
    rw [hbounds] at hlon hlat
    obtain ⟨column, a, hcolumn, -, -, ha, heast, hwest, hslack⟩ := column_spec hlon
    obtain ⟨row, b, hrow, -, -, hb, hsouth, hnorth, hslack'⟩ := row_spec hlat
    rw [OverstepsEdge, indexAt_columnRow hnaming, hdegrees, hcolumns, hrows, hcolumn, hrow]
    simp only [Nat.cast_lt, ← hwest, ← hnorth]
    simp only [footprint, hnaming, hdegrees, Bounds.Encloses, Bounds.EnclosesWithin,
      Binary.Between, ha, hb, Option.some.injEq, exists_eq_left', exists_and_left,
      Nat.cast_ofNat, true_and, not_or, not_lt]
    omega
  | corner =>
    obtain ⟨a, ha, -, -⟩ := hlon
    obtain ⟨b, hb, -, -⟩ := hlat
    have hleft := (le_floor_iff ha).mp (Int.le_refl _)
    have hright := (floor_lt_iff ha).mp (Int.lt_succ (floor lon))
    have hbottom := (le_floor_iff hb).mp (Int.le_refl _)
    have htop := (floor_lt_iff hb).mp (Int.lt_succ (floor lat))
    rw [OverstepsEdge, hnaming, indexAt_corner hnaming]
    simp only [footprint, hnaming, degrees_corner h hnaming, Bounds.Encloses,
      Bounds.EnclosesWithin, Binary.Between, ha, hb, Option.some.injEq, exists_eq_left',
      exists_and_left, Nat.cast_one, reduceCtorEq, false_and, not_false_eq_true, iff_true]
    omega

def belowFive : Double := .ofDecimal false 4999999999999999 (-15)

/-- The longitude is `2 ^ -50` short of the edge, which `185` is the nearest number to. -/
theorem footprint_belowFive : srtm3.bounds.contains belowFive 2 = true ∧
    srtm3.index belowFive 2 = .ok (38, 12) ∧
    ¬(srtm3.footprint (38, 12)).Encloses belowFive 2 := by
  refine ⟨by decide +kernel, toOption_eq_some.mp (by decide +kernel), ?_⟩
  have hunits : belowFive.toUnits? = some (5 * binary64.one - Nat.pow 2 1024 : Nat) := by
    decide +kernel
  rintro ⟨⟨a, ha, hwest, -⟩, -⟩
  obtain rfl := Option.some.inj (hunits.symm.trans ha)
  revert hwest
  decide +kernel

/-- The sums are exact at whole degrees, so no edge is overstepped there. -/
theorem footprint_encloses_wholeDegrees : ∃ index, srtm3.index 7 46 = .ok index ∧
    (srtm3.footprint index).Encloses 7 46 := by
  have hmem : srtm3 ∈ all := by simp [all]
  have hin : srtm3.bounds.contains 7 46 = true := by decide +kernel
  obtain ⟨index, hindex, hencloses, -⟩ := footprint_encloses_iff hmem hin
  refine ⟨index, hindex, hencloses.mpr ?_⟩
  rintro ⟨-, ⟨j, -, hover⟩ | ⟨j, -, hover⟩⟩
  · exact Binary.not_oversteps_of_fits (units_degrees (by decide)) (units_degrees (by decide))
      (by decide +kernel) _ hover
  · exact Binary.not_oversteps_of_fits (units_degrees (by decide))
      (Binary.units_neg (units_degrees (by decide))) (by decide +kernel) _ hover

end Source

end TerrainTiles
