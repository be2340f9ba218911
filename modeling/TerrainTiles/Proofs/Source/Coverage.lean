import TerrainTiles.Proofs.Binary.Units
import TerrainTiles.Source.Grid

/-!
# Coverage

The bounds of a source enclose a point if both coordinates are numbers between the
edges, which belong to the bounds. The edges are integers that double precision
represents, so comparing in double precision decides this exactly (`contains_iff`);
not-a-number and the infinities are in no bounds.
-/

namespace TerrainTiles

namespace Binary

variable {f : Format} {x : Binary f}

/-- The number is finite and between two integers, or equal to one of them. -/
def Between (low high : Int) (x : Binary f) : Prop :=
  ∃ a, x.toUnits? = some a ∧ low * f.one ≤ a ∧ a ≤ high * f.one

theorem not_between_infinite {y z : Binary f} (hy : y.isFinite) (hz : z.isFinite)
    (hx : x.toUnits? = none) : (y.le x && x.le z) = false := by
  cases y with
  | nan | infinite => cases hy
  | finite =>
    cases z with
    | nan | infinite => cases hz
    | finite =>
      cases x with
      | nan => rfl
      | infinite p => cases p <;> rfl
      | finite => cases hx

theorem between_iff {low high : Int} (hlow : f.Fits (low.natAbs * f.one))
    (hhigh : f.Fits (high.natAbs * f.one)) :
    ((ofInt low).le x && x.le (ofInt high)) = true ↔ Between low high x := by
  have hl := units_ofInt hlow
  have hh := units_ofInt hhigh
  cases hx : x.toUnits? with
  | some a => simp [Between, hx, le_iff hl hx, le_iff hx hh]
  | none =>
    rw [not_between_infinite (isFinite_iff.mpr ⟨_, hl⟩) (isFinite_iff.mpr ⟨_, hh⟩) hx]
    simp [Between, hx]

end Binary

namespace Bounds

def Encloses (bounds : Bounds) (lon lat : Double) : Prop :=
  lon.Between bounds.west bounds.east ∧ lat.Between bounds.south bounds.north

structure IsExact (bounds : Bounds) : Prop where
  west : bounds.west.natAbs < 2 ^ 53
  south : bounds.south.natAbs < 2 ^ 53
  east : bounds.east.natAbs < 2 ^ 53
  north : bounds.north.natAbs < 2 ^ 53

variable {bounds : Bounds} {lon lat : Double}

theorem contains_iff (h : bounds.IsExact) :
    bounds.contains lon lat = true ↔ bounds.Encloses lon lat := by
  have fits {n : Nat} (hn : n < 2 ^ 53) : Format.binary64.Fits (n * Format.binary64.one) :=
    Format.fits_mul_one (by decide) hn
  rw [contains, Bool.and_eq_true, Binary.between_iff (fits h.west) (fits h.east),
    Binary.between_iff (fits h.south) (fits h.north), Encloses]

end Bounds

namespace Source

theorem isExact_bounds {source : Source} (h : source ∈ all) : source.bounds.IsExact := by
  simp only [all, List.mem_cons, List.not_mem_nil, or_false] at h
  rcases h with rfl | rfl | rfl
  all_goals exact ⟨by decide, by decide, by decide, by decide⟩

theorem index_of_not_encloses {source : Source} {lon lat : Double} (h : source ∈ all)
    (hout : ¬source.bounds.Encloses lon lat) :
    source.index lon lat = .error (.outsideCoverage source.name lon lat) := by
  rw [index, if_neg (mt (Bounds.contains_iff (isExact_bounds h)).mp hout)]

theorem tileName_of_not_encloses {source : Source} {lon lat : Double} (h : source ∈ all)
    (hout : ¬source.bounds.Encloses lon lat) :
    source.tileName lon lat = .error (.outsideCoverage source.name lon lat) := by
  rw [tileName, index_of_not_encloses h hout]
  rfl

theorem index_of_encloses {source : Source} {lon lat : Double} (h : source ∈ all)
    (hin : source.bounds.Encloses lon lat) :
    source.index lon lat = .ok (source.indexAt lon lat) := by
  rw [index, if_pos ((Bounds.contains_iff (isExact_bounds h)).mpr hin)]

end Source

end TerrainTiles
