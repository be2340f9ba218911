import TerrainTiles.Proofs.Raster.Sampling
import TerrainTiles.World.Decoder

/-!
# Void cells

A cell of a raster is decoded to not-a-number where it has no data: where it is
not-a-number already or equals the mark. Cell and mark are compared in single
precision, so a cell with data is lost as well if single precision does not tell it
from the mark (`Merges`); `decode_void_iff` says that there are no other cases, and
that there is a product unless all cells are void in this sense.

Conversion keeps equal numbers equal (`eq_convert`), so no cell without data survives.
Read backwards, numbers that single precision represents stay apart: integers of up to
sixteen bits and single-precision cells do not merge with such a mark
(`not_merges_of_isSingle`).
-/

namespace TerrainTiles

namespace Binary

variable {f : Format} {x y : Binary f}

theorem signed_inj {p q : Bool} {m n : Nat} (h : signed p m = signed q n) :
    m = n ∧ (p = q ∨ m = 0) := by
  cases p <;> cases q <;> simp only [signed, if_true, Bool.false_eq_true, if_false] at h <;> simp
  all_goals omega

theorem ofRatio_zero (p : Bool) (den : Nat) : (ofRatio p 0 den : Binary f) = zero p := by
  have hround : f.round 0 den = 0 := by simp [Format.round, nearest]
  simp only [ofRatio, hround, f.fits_zero.2, dite_true, zero]

theorem eq_zero (p q : Bool) : (zero p : Binary f).eq (zero q) = true := by
  cases p <;> cases q <;> simp [zero, eq, signed]

theorem eq_convert (g : Format) (h : x.eq y = true) : (x.convert g).eq (y.convert g) = true := by
  cases x with
  | nan => cases h
  | infinite p =>
    cases y with
    | infinite q => exact h
    | nan | finite q n hn => cases h
  | finite p m hm =>
    cases y with
    | nan | infinite q => cases h
    | finite q n hn =>
      obtain ⟨rfl, rfl | rfl⟩ := signed_inj (of_decide_eq_true h)
      · exact (eq_self_iff _).mpr (isNaN_ofRatio _ _ _)
      · -- The two zeros are equal numbers, and remain so.
        simp only [convert, Nat.zero_mul, ofRatio_zero]
        exact eq_zero p q

end Binary

namespace Sample

def IsSingle (x : Double) : Prop := widen (narrow x) = x

theorem isSingle_ofInt {n : Int} (h : n.natAbs < 2 ^ 24) : IsSingle (.ofInt n) := by
  have hsingle : Format.binary32.Fits (n.natAbs * Format.binary32.one) :=
    Format.fits_mul_one (by decide) h
  have hdouble : Format.binary64.Fits (n.natAbs * Format.binary64.one) :=
    Format.fits_mul_one (by decide) (Nat.lt_trans h (by decide))
  rw [IsSingle, narrow, widen, Binary.convert_ofInt hdouble hsingle,
    Binary.convert_ofInt hsingle hdouble]

theorem IsSingle.eq_of_narrow {x y : Double} (hx : IsSingle x) (hy : IsSingle y)
    (h : (narrow x).eq (narrow y) = true) : x.eq y = true := by
  have hwide := Binary.eq_convert Format.binary64 h
  rwa [← widen, ← widen, hx, hy] at hwide

end Sample

open Sample

/-- Cells of up to sixteen bits and single-precision cells hold single-precision numbers. -/
theorem CellType.Holds.isSingle {type : CellType} {x : Double} (h : type.Holds x)
    (hint : type ≠ .int32) (hdouble : type ≠ .float64) : IsSingle x := by
  cases type with
  | int32 => exact absurd rfl hint
  | float64 => exact absurd rfl hdouble
  | float32 => exact h rfl
  | uint8 | int16 | uint16 =>
    simp only [Holds, bounds?] at h
    obtain ⟨n, hlow, hhigh, hx⟩ := h
    have hsmall : n.natAbs < 2 ^ 24 := by omega
    exact hx ▸ isSingle_ofInt hsmall

namespace Raster

variable {raster : Raster} {x : Double}

-- ---------------------------------------------------------------------------
-- Cells without data
-- ---------------------------------------------------------------------------

def cells (raster : Raster) : List Double := raster.rows.flatten

def cell? (raster : Raster) (row column : Nat) : Option Double :=
  raster.rows[row]? >>= (·[column]?)

def IsRectangular (raster : Raster) : Prop := ∃ width, ∀ row ∈ raster.rows, row.length = width

/-- A cell without data: not-a-number, or the mark. -/
def Lacks (raster : Raster) (x : Double) : Prop :=
  x.isNaN = true ∨ ∃ mark, raster.nodata = some mark ∧ x.eq mark = true

instance : Decidable (raster.Lacks x) := inferInstanceAs (Decidable (_ ∨ _))

/-- A cell with data that single precision does not tell from the mark. -/
def Merges (raster : Raster) (x : Double) : Prop :=
  x.isNaN = false ∧ ∃ mark, raster.nodata = some mark ∧ x.eq mark = false ∧
    (narrow x).eq (narrow mark) = true

instance : Decidable (raster.Merges x) := inferInstanceAs (Decidable (_ ∧ _))

theorem isNaN_narrow : (narrow x).isNaN = x.isNaN := isNaN_convert _ x

theorem isNaN_decodeCell :
    (decodeCell raster.nodata x).isNaN = true ↔ raster.Lacks x ∨ raster.Merges x := by
  cases hnodata : raster.nodata with
  | none => simp [decodeCell, Lacks, Merges, hnodata, isNaN_narrow]
  | some mark =>
    have heq : x.eq mark = true → (narrow x).eq (narrow mark) = true := Binary.eq_convert _
    by_cases h : (narrow x).eq (narrow mark) = true
    · cases hx : x.isNaN <;> cases hmark : x.eq mark <;>
        simp [decodeCell, Lacks, Merges, hnodata, h, hx, hmark]
    · have hmark : x.eq mark = false := Bool.eq_false_iff.mpr (mt heq h)
      simp [decodeCell, Lacks, Merges, hnodata, h, hmark, isNaN_narrow]

theorem decodeCell_of_isNaN {nodata : Option Double} (h : (decodeCell nodata x).isNaN = false) :
    decodeCell nodata x = narrow x := by
  cases nodata with
  | none => rfl
  | some mark =>
    by_cases hmark : (narrow x).eq (narrow mark) = true
    · simp [decodeCell, hmark] at h
    · simp [decodeCell, hmark]

theorem not_merges_of_isSingle (hx : IsSingle x)
    (hmark : ∀ mark ∈ raster.nodata, IsSingle mark) : ¬raster.Merges x := by
  rintro ⟨-, mark, hnodata, hne, heq⟩
  rw [hx.eq_of_narrow (hmark mark hnodata) heq] at hne
  cases hne

-- ---------------------------------------------------------------------------
-- Rasters
-- ---------------------------------------------------------------------------

theorem ofRows?_of_length {rows : List (List Single)} {width : Nat}
    (h : ∀ row ∈ rows, row.length = width) :
    ∃ grid, Grid.ofRows? rows = some grid ∧ grid.rows = rows := by
  have hhead : ∀ row ∈ rows, row.length = (rows.head?.map List.length).getD 0 := by
    cases rows with
    | nil => simp
    | cons first rest =>
      intro row hrow
      exact (h row hrow).trans (h first List.mem_cons_self).symm
  exact ⟨_, dif_pos hhead, rfl⟩

theorem grid?_of_isRectangular (h : raster.IsRectangular) : ∃ grid, raster.grid? = some grid ∧
    grid.rows = raster.rows.map (·.map (decodeCell raster.nodata)) := by
  obtain ⟨width, h⟩ := h
  have hlength : ∀ row ∈ raster.rows.map (·.map (decodeCell raster.nodata)),
      row.length = width := by
    intro row hrow
    obtain ⟨cells, hcells, rfl⟩ := List.mem_map.mp hrow
    simpa using h cells hcells
  exact ofRows?_of_length hlength

theorem cell?_decoded {grid : Grid} {row column : Nat}
    (hgrid : grid.rows = raster.rows.map (·.map (decodeCell raster.nodata)))
    (hx : raster.cell? row column = some x) :
    grid.cell? row column = some (decodeCell raster.nodata x) := by
  obtain ⟨cells, hrow, hcolumn⟩ := Option.bind_eq_some_iff.mp hx
  simp [Grid.cell?, hgrid, hrow, hcolumn]

theorem isVoid_decoded {grid : Grid}
    (hgrid : grid.rows = raster.rows.map (·.map (decodeCell raster.nodata))) :
    grid.isVoid = true ↔ ∀ x ∈ raster.cells, raster.Lacks x ∨ raster.Merges x := by
  have hcells : grid.cells = raster.cells.map (decodeCell raster.nodata) := by
    rw [Grid.cells, hgrid, cells, List.map_flatten]
  simp [Grid.isVoid, hcells, isNaN_decodeCell]

theorem decode_eq {grid : Grid} (hgrid : raster.grid? = some grid) (name : String) :
    (raster.decode name = none ↔ grid.isVoid = true) ∧
      ∀ tile ∈ raster.decode name, tile.grid = some grid := by
  cases hvoid : grid.isVoid with
  | true => simp [decode, hgrid, hvoid]
  | false => simp [decode, hgrid, hvoid]

/-- Which cells of a raster are decoded to void ones, and when there is no product. -/
theorem decode_void_iff (h : raster.IsRectangular) :
    ∃ grid, raster.grid? = some grid ∧
      (∀ row column x, raster.cell? row column = some x →
        ∃ y, grid.cell? row column = some y ∧
          (y.isNaN = true ↔ raster.Lacks x ∨ raster.Merges x) ∧
          (y.isNaN = false → y = narrow x)) ∧
      (∀ read? unpacker data name, read? data = some raster →
        ∃ product, ((Decoder.ofRasters read? unpacker).decode (some data) name).1 = .ok product ∧
          (product = none ↔ ∀ x ∈ raster.cells, raster.Lacks x ∨ raster.Merges x) ∧
          ∀ tile ∈ product, tile.grid = some grid) ∧
      ((∀ x ∈ raster.cells, raster.type.Holds x) → raster.type ≠ .int32 →
        raster.type ≠ .float64 → (∀ mark ∈ raster.nodata, IsSingle mark) →
        ∀ x ∈ raster.cells, ¬raster.Merges x) := by
  obtain ⟨grid, hgrid, hrows⟩ := grid?_of_isRectangular h
  refine ⟨grid, hgrid, ?_, ?_, ?_⟩
  · intro row column x hx
    exact ⟨_, cell?_decoded hrows hx, isNaN_decodeCell, decodeCell_of_isNaN⟩
  · intro read? unpacker data name hread
    obtain ⟨hnone, hsome⟩ := decode_eq hgrid name
    rw [isVoid_decoded hrows] at hnone
    exact ⟨raster.decode name, by simp [Decoder.ofRasters, Decoder.decode, hread], hnone, hsome⟩
  · intro hholds hint hdouble hmark x hx
    exact not_merges_of_isSingle ((hholds x hx).isSingle hint hdouble) hmark

def heights : Raster where
  type := .int16
  rows := [[100, .ofInt (-32768)], [200, 300]]
  nodata := some (.ofInt (-32768))
  transform := ⟨1, 0, 0, 0, -1, 2⟩
  epsg := none

/-- The one cell without data is void, the others are not. -/
theorem decode_void_iff_heights : ∃ grid, heights.grid? = some grid ∧
    (∃ y, grid.cell? 0 1 = some y ∧ y.isNaN = true) ∧
    ∃ y, grid.cell? 1 0 = some y ∧ y.isNaN = false := by
  have hrect : heights.IsRectangular := ⟨2, by simp [heights]⟩
  obtain ⟨grid, hgrid, hcells, -⟩ := decode_void_iff hrect
  obtain ⟨y, hy, hvoid, -⟩ := hcells 0 1 (.ofInt (-32768)) rfl
  obtain ⟨z, hz, hdata, -⟩ := hcells 1 0 200 rfl
  have hlacks : heights.Lacks (.ofInt (-32768)) := by decide +kernel
  have hkept : ¬(heights.Lacks 200 ∨ heights.Merges 200) := by decide +kernel
  exact ⟨grid, hgrid, ⟨y, hy, hvoid.mpr (.inl hlacks)⟩, z, hz,
    Bool.eq_false_iff.mpr (mt hdata.mp hkept)⟩

/-- A cell with data, next to a mark that single precision cannot tell from it. -/
def adjacent : Raster where
  type := .int32
  rows := [[16777217]]
  nodata := some 16777216
  transform := ⟨1, 0, 0, 0, -1, 1⟩
  epsg := none

/-- The only cell has data, but there is no product. -/
theorem decode_adjacent : adjacent.IsRectangular ∧ (∀ x ∈ adjacent.cells, adjacent.type.Holds x) ∧
    adjacent.cells ≠ [] ∧ (∀ x ∈ adjacent.cells, ¬adjacent.Lacks x) ∧
    adjacent.decode "t.tif" = none := by
  have hcells : adjacent.cells = [.ofInt 16777217] := rfl
  refine ⟨⟨1, by simp [adjacent]⟩, ?_, by simp [hcells], by decide +kernel, ?_⟩
  · intro x hx
    rw [hcells, List.mem_singleton] at hx
    exact ⟨16777217, by decide, by decide, hx⟩
  · exact Option.isNone_iff_eq_none.mp (by decide +kernel)

end Raster

end TerrainTiles
