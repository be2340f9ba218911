import TerrainTiles.Binary.Basic
import Mathlib.Algebra.Order.Ring.Int
import Mathlib.Data.Nat.Log
import Mathlib.Tactic.Ring

/-!
# Exact values of rounded results

A finite number stands for an integer count of its format's units, `toUnits?`, and
comparisons and floors are those of the integers. Rounding never passes a number of
the format (`Format.round_le`, `Format.le_round`), so a result whose exact value
lies between two numbers of the format is finite and lies between them as well
(`units_add`, `units_mul`, `units_convert`). A result that is itself a number of
the format is exact: it lies between itself and itself.
-/

namespace TerrainTiles

-- ---------------------------------------------------------------------------
-- Rounding
-- ---------------------------------------------------------------------------

theorem nearest_le_of_le_mul {num den k : Nat} (hd : 0 < den) (h : num ≤ k * den) :
    nearest num den ≤ k := by
  rcases Nat.lt_or_eq_of_le h with hlt | rfl
  · have hquotient : num / den < k := (Nat.div_lt_iff_lt_mul hd).mpr hlt
    exact Nat.le_trans (nearest_le num den) hquotient
  · exact Nat.le_of_eq (nearest_mul k den hd)

theorem le_nearest_of_mul_le {num den k : Nat} (hd : 0 < den) (h : k * den ≤ num) :
    k ≤ nearest num den :=
  Nat.le_trans ((Nat.le_div_iff_mul_le hd).mpr h) (div_le_nearest num den)

namespace Format

variable {f : Format} {m n u num den : Nat}

theorem gap_eq (f : Format) (m : Nat) : f.gap m = 2 ^ f.gapExponent m := Nat.pow_eq

theorem one_eq (f : Format) : f.one = 2 ^ f.unitExponent := Nat.pow_eq

theorem gapExponent_mono (h : m ≤ n) : f.gapExponent m ≤ f.gapExponent n := by
  have hlog : m.log2 ≤ n.log2 := by
    rw [Nat.log2_eq_log_two, Nat.log2_eq_log_two]
    exact Nat.log_mono_right h
  unfold gapExponent
  omega

theorem gap_dvd_gap (h : m ≤ n) : f.gap m ∣ f.gap n := by
  rw [gap_eq, gap_eq]
  exact Nat.pow_dvd_pow 2 (gapExponent_mono h)

theorem gap_dvd_pow {e : Nat} (h : m < 2 ^ (e + f.precision)) : f.gap m ∣ 2 ^ e := by
  have hlog : m.log2 < e + f.precision := by
    rcases Nat.eq_zero_or_pos m with rfl | hm
    · exact Nat.lt_of_lt_of_le f.precision_pos (Nat.le_add_left ..)
    · exact (Nat.log2_lt (Nat.ne_of_gt hm)).mpr h
  rw [gap_eq]
  refine Nat.pow_dvd_pow 2 ?_
  unfold gapExponent
  omega

theorem Fits.gap_dvd (h : f.Fits u) (hm : m ≤ u) : f.gap m ∣ u := Nat.dvd_trans (gap_dvd_gap hm) h.1

theorem fits_of_dvd (hu : f.Fits u) (hm : m ≤ u) (h : f.gap u ∣ m) : f.Fits m :=
  ⟨Nat.dvd_trans (gap_dvd_gap hm) h, Nat.lt_of_le_of_lt hm hu.2⟩

theorem fits_mul_pow {k e : Nat} (hk : k < 2 ^ f.precision) (h : k * 2 ^ e < f.bound) :
    f.Fits (k * 2 ^ e) := by
  refine ⟨?_, h⟩
  rcases Nat.eq_zero_or_pos k with rfl | hpos
  · simp
  · have hlog : (k * 2 ^ e).log2 < f.precision + e := by
      rw [Nat.log2_lt (Nat.ne_of_gt (Nat.mul_pos hpos (Nat.two_pow_pos e))), Nat.pow_add]
      exact Nat.mul_lt_mul_of_pos_right hk (Nat.two_pow_pos e)
    rw [gap_eq]
    refine Nat.dvd_trans (Nat.pow_dvd_pow 2 ?_) (Nat.dvd_mul_left _ k)
    unfold gapExponent
    omega

theorem fits_mul_one {k : Nat} (hf : f.precision + f.unitExponent ≤ f.width)
    (hk : k < 2 ^ f.precision) : f.Fits (k * f.one) := by
  rw [one_eq]
  refine fits_mul_pow hk ?_
  rw [bound, Nat.pow_eq]
  calc k * 2 ^ f.unitExponent < 2 ^ f.precision * 2 ^ f.unitExponent :=
        Nat.mul_lt_mul_of_pos_right hk (Nat.two_pow_pos _)
    _ = 2 ^ (f.precision + f.unitExponent) := (Nat.pow_add ..).symm
    _ ≤ 2 ^ f.width := Nat.pow_le_pow_right Nat.two_pos hf

theorem fits_one (hf : f.precision + f.unitExponent ≤ f.width) : f.Fits f.one := by
  have h := fits_mul_one hf (Nat.one_lt_two_pow (Nat.ne_of_gt f.precision_pos))
  rwa [Nat.one_mul] at h

/-- The integer part and the fraction of a number of the format belong to the format. -/
theorem fits_part (h : f.Fits m) : f.Fits (m / f.one * f.one) ∧ f.Fits (m % f.one) := by
  have hwhole : m / f.one * f.one ≤ m := Nat.div_mul_le_self m f.one
  have hrest : m % f.one ≤ m := Nat.mod_le m f.one
  -- Of the gap and one, both powers of two, the smaller divides the other.
  rcases Nat.le_total (f.gapExponent m) f.unitExponent with hle | hle
  · have hgap : f.gap m ∣ f.one := by
      rw [gap_eq, one_eq]
      exact Nat.pow_dvd_pow 2 hle
    exact ⟨fits_of_dvd h hwhole (Nat.dvd_mul_left_of_dvd hgap _),
      fits_of_dvd h hrest ((Nat.dvd_mod_iff hgap).mpr h.1)⟩
  · have hone : f.one ∣ m := by
      refine Nat.dvd_trans ?_ h.1
      rw [gap_eq, one_eq]
      exact Nat.pow_dvd_pow 2 hle
    rw [Nat.div_mul_cancel hone, Nat.mod_eq_zero_of_dvd hone]
    exact ⟨h, f.fits_zero⟩

theorem round_le (hd : 0 < den) (hu : f.Fits u) (h : num ≤ u * den) : f.round num den ≤ u := by
  have hq : num / den ≤ u := Nat.div_le_of_le_mul (Nat.mul_comm u den ▸ h)
  obtain ⟨k, hk⟩ := hu.gap_dvd hq
  unfold round
  dsimp only
  generalize f.gap (num / den) = gap at hk
  have hnum : num ≤ k * (den * gap) := by
    rw [hk] at h
    calc num ≤ gap * k * den := h
      _ = k * (den * gap) := by ring
  rcases Nat.eq_zero_or_pos gap with rfl | hgap
  · simp
  · calc nearest num (den * gap) * gap ≤ k * gap :=
          Nat.mul_le_mul_right gap (nearest_le_of_le_mul (Nat.mul_pos hd hgap) hnum)
      _ = u := by rw [hk, Nat.mul_comm]

/-- A multiple of the gap where the quotient lies bounds its rounding from below. -/
private theorem le_round_of_dvd (hd : 0 < den) (hu : f.gap (num / den) ∣ u) (h : u * den ≤ num) :
    u ≤ f.round num den := by
  obtain ⟨k, hk⟩ := hu
  have hgap := f.gap_pos (num / den)
  unfold round
  dsimp only
  generalize f.gap (num / den) = gap at hk hgap
  have hnum : k * (den * gap) ≤ num := by
    rw [hk] at h
    calc k * (den * gap) = gap * k * den := by ring
      _ ≤ num := h
  calc u = k * gap := by rw [hk, Nat.mul_comm]
    _ ≤ nearest num (den * gap) * gap :=
      Nat.mul_le_mul_right gap (le_nearest_of_mul_le (Nat.mul_pos hd hgap) hnum)

theorem le_round (hd : 0 < den) (hu : f.Fits u) (h : u * den ≤ num) : u ≤ f.round num den := by
  have hq : u ≤ num / den := (Nat.le_div_iff_mul_le hd).mpr h
  rcases Nat.eq_or_lt_of_le (gapExponent_mono (f := f) hq) with heq | hlt
  · refine le_round_of_dvd hd ?_ h
    have hgap : f.gap (num / den) = f.gap u := by rw [gap_eq, gap_eq, heq]
    exact hgap ▸ hu.1
  · -- The quotient lies in a higher binade, whose first number is above `u`.
    have hbinade : u.log2 < (num / den).log2 ∧ f.precision ≤ (num / den).log2 := by
      unfold gapExponent at hlt
      omega
    have hlow : 2 ^ (num / den).log2 ≤ num / den :=
      Nat.log2_self_le (by rintro hz; simp [hz] at hbinade)
    have hu' : u < 2 ^ (num / den).log2 :=
      Nat.lt_of_lt_of_le Nat.lt_log2_self (Nat.pow_le_pow_right Nat.two_pos hbinade.1)
    refine Nat.le_trans (Nat.le_of_lt hu') (le_round_of_dvd hd ?_ ?_)
    · rw [gap_eq]
      refine Nat.pow_dvd_pow 2 ?_
      have hp := f.precision_pos
      unfold gapExponent
      omega
    · exact (Nat.le_div_iff_mul_le hd).mp hlow

theorem round_le_int {c : Int} (hd : 0 < den) (hc : f.Fits c.natAbs) (h : (num : Int) ≤ c * den) :
    (f.round num den : Int) ≤ c := by
  have hnonneg : 0 ≤ c := by
    refine nonneg_of_mul_nonneg_left (le_trans (Int.natCast_nonneg num) h) ?_
    exact Int.natCast_pos.mpr hd
  obtain ⟨u, rfl⟩ := Int.eq_ofNat_of_zero_le hnonneg
  exact_mod_cast f.round_le hd hc (by exact_mod_cast h)

theorem le_round_int {c : Int} (hd : 0 < den) (hc : f.Fits c.natAbs) (h : c * den ≤ (num : Int)) :
    c ≤ (f.round num den : Int) := by
  rcases Int.le_total c 0 with hneg | hnonneg
  · exact le_trans hneg (Int.natCast_nonneg _)
  · obtain ⟨u, rfl⟩ := Int.eq_ofNat_of_zero_le hnonneg
    exact_mod_cast f.le_round hd hc (by exact_mod_cast h)

/-- A whole number of units is its own rounding, whatever it is counted in. -/
theorem round_mul (hd : 0 < den) (hu : f.Fits u) : f.round (u * den) den = u :=
  Nat.le_antisymm (f.round_le hd hu (Nat.le_refl _)) (f.le_round hd hu (Nat.le_refl _))

end Format

namespace Binary

variable {f g : Format} {x y : Binary f} {a b lo hi : Int} {p : Bool} {num den : Nat}

-- ---------------------------------------------------------------------------
-- Units
-- ---------------------------------------------------------------------------

theorem toUnits?_eq_some : x.toUnits? = some a ↔ ∃ p m hm, x = finite p m hm ∧ signed p m = a := by
  cases x with
  | nan => simp [toUnits?]
  | infinite p => simp [toUnits?]
  | finite p m hm =>
    constructor
    · intro h
      exact ⟨p, m, hm, rfl, Option.some.inj h⟩
    · rintro ⟨q, n, hn, heq, rfl⟩
      cases heq
      rfl

theorem isFinite_iff : x.isFinite = true ↔ ∃ a, x.toUnits? = some a := by
  cases x <;> simp [isFinite, toUnits?]

theorem isNaN_of_units (h : x.toUnits? = some a) : x.isNaN = false := by
  obtain ⟨p, m, hm, rfl, -⟩ := toUnits?_eq_some.mp h
  rfl

theorem natAbs_signed (p : Bool) (m : Nat) : (signed p m).natAbs = m := by
  cases p <;> simp [signed]

theorem fits_of_units (h : x.toUnits? = some a) : f.Fits a.natAbs := by
  obtain ⟨p, m, hm, -, rfl⟩ := toUnits?_eq_some.mp h
  rwa [natAbs_signed]

theorem lt_iff (hx : x.toUnits? = some a) (hy : y.toUnits? = some b) : x.lt y = true ↔ a < b := by
  obtain ⟨p, m, hm, rfl, rfl⟩ := toUnits?_eq_some.mp hx
  obtain ⟨q, n, hn, rfl, rfl⟩ := toUnits?_eq_some.mp hy
  simp [lt]

theorem eq_iff (hx : x.toUnits? = some a) (hy : y.toUnits? = some b) : x.eq y = true ↔ a = b := by
  obtain ⟨p, m, hm, rfl, rfl⟩ := toUnits?_eq_some.mp hx
  obtain ⟨q, n, hn, rfl, rfl⟩ := toUnits?_eq_some.mp hy
  simp [eq]

theorem le_iff (hx : x.toUnits? = some a) (hy : y.toUnits? = some b) : x.le y = true ↔ a ≤ b := by
  rw [le, Bool.or_eq_true, lt_iff hx hy, eq_iff hx hy, ← le_iff_lt_or_eq]

theorem floor?_eq_some {k : Int} :
    x.floor? = some k ↔ ∃ a, x.toUnits? = some a ∧ a / (f.one : Int) = k := by
  rw [floor?, Option.map_eq_some_iff]

theorem units_neg (h : x.toUnits? = some a) : (-x).toUnits? = some (-a) := by
  obtain ⟨p, m, hm, rfl, rfl⟩ := toUnits?_eq_some.mp h
  cases p with
  | false => rfl
  | true => exact congrArg some (Int.neg_neg m).symm

-- ---------------------------------------------------------------------------
-- Rounded results
-- ---------------------------------------------------------------------------

theorem ofRatio_mul {u : Nat} (hd : 0 < den) (hu : f.Fits u) :
    ofRatio p (u * den) den = finite p u hu := by
  simp only [ofRatio, f.round_mul hd hu, hu.2, dite_true]

/-- A quotient between two numbers of the format is rounded to one between them. -/
theorem units_ofRatio (hd : 0 < den) (hlo : f.Fits lo.natAbs) (hhi : f.Fits hi.natAbs)
    (h : lo * den ≤ signed p num) (h' : signed p num ≤ hi * den) :
    ∃ c, (ofRatio p num den : Binary f).toUnits? = some c ∧ lo ≤ c ∧ c ≤ hi := by
  cases p with
  | false =>
    have hround : (f.round num den : Int) ≤ hi := f.round_le_int hd hhi h'
    have hbound : f.round num den < f.bound := Nat.lt_of_le_of_lt (by omega) hhi.2
    exact ⟨f.round num den, by simp [ofRatio, hbound, toUnits?], f.le_round_int hd hlo h, hround⟩
  | true =>
    -- The magnitude lies between the negated bounds.
    have hround : (f.round num den : Int) ≤ -lo := by
      refine f.round_le_int hd (by rwa [Int.natAbs_neg]) ?_
      simp only [signed, if_true] at h
      rw [Int.neg_mul]
      omega
    have hbound : f.round num den < f.bound := Nat.lt_of_le_of_lt (by omega) hlo.2
    have hround' : -hi ≤ (f.round num den : Int) := by
      refine f.le_round_int hd (by rwa [Int.natAbs_neg]) ?_
      simp only [signed, if_true] at h'
      rw [Int.neg_mul]
      omega
    refine ⟨-(f.round num den : Int), by simp [ofRatio, hbound, toUnits?], ?_, ?_⟩
    · omega
    · omega

theorem signed_natAbs (n : Int) : signed (decide (n < 0)) n.natAbs = n := by
  by_cases h : n < 0
  · simp only [signed, h, decide_true, if_true]
    omega
  · simp only [signed, h, decide_false, Bool.false_eq_true, if_false]
    omega

theorem signed_mul (p q : Bool) (m n : Nat) :
    signed (p != q) (m * n) = signed p m * signed q n := by
  cases p <;> cases q <;> simp [signed]

theorem units_add (hx : x.toUnits? = some a) (hy : y.toUnits? = some b)
    (hlo : f.Fits lo.natAbs) (hhi : f.Fits hi.natAbs) (h : lo ≤ a + b) (h' : a + b ≤ hi) :
    ∃ c, (x + y).toUnits? = some c ∧ lo ≤ c ∧ c ≤ hi := by
  obtain ⟨p, m, hm, rfl, rfl⟩ := toUnits?_eq_some.mp hx
  obtain ⟨q, n, hn, rfl, rfl⟩ := toUnits?_eq_some.mp hy
  by_cases hzero : signed p m + signed q n = 0
  · have hsum : (finite p m hm + finite q n hn : Binary f) = zero (p && q) := if_pos hzero
    exact ⟨0, by simp [hsum, zero, toUnits?], hzero ▸ h, hzero ▸ h'⟩
  · have hsum : (finite p m hm + finite q n hn : Binary f) = _ := if_neg hzero
    rw [hsum]
    refine units_ofRatio Nat.one_pos hlo hhi ?_ ?_
    · simpa [signed_natAbs] using h
    · simpa [signed_natAbs] using h'

theorem units_add_of_fits (hx : x.toUnits? = some a) (hy : y.toUnits? = some b)
    (h : f.Fits (a + b).natAbs) : (x + y).toUnits? = some (a + b) := by
  obtain ⟨c, hc, hlo, hhi⟩ := units_add hx hy h h (le_refl _) (le_refl _)
  rw [hc, le_antisymm hhi hlo]

theorem units_sub_of_fits (hx : x.toUnits? = some a) (hy : y.toUnits? = some b)
    (h : f.Fits (a - b).natAbs) : (x - y).toUnits? = some (a - b) :=
  units_add_of_fits hx (units_neg hy) h

theorem units_mul (hx : x.toUnits? = some a) (hy : y.toUnits? = some b)
    (hlo : f.Fits lo.natAbs) (hhi : f.Fits hi.natAbs) (h : lo * f.one ≤ a * b)
    (h' : a * b ≤ hi * f.one) : ∃ c, (x * y).toUnits? = some c ∧ lo ≤ c ∧ c ≤ hi := by
  obtain ⟨p, m, hm, rfl, rfl⟩ := toUnits?_eq_some.mp hx
  obtain ⟨q, n, hn, rfl, rfl⟩ := toUnits?_eq_some.mp hy
  refine units_ofRatio f.one_pos hlo hhi ?_ ?_
  · rwa [signed_mul]
  · rwa [signed_mul]

theorem units_convert (hx : x.toUnits? = some a) (hlo : g.Fits lo.natAbs) (hhi : g.Fits hi.natAbs)
    (h : lo * f.one ≤ a * g.one) (h' : a * g.one ≤ hi * f.one) :
    ∃ c, (x.convert g).toUnits? = some c ∧ lo ≤ c ∧ c ≤ hi := by
  obtain ⟨p, m, hm, rfl, rfl⟩ := toUnits?_eq_some.mp hx
  have hsigned : signed p (m * g.one) = signed p m * g.one := by
    cases p <;> simp [signed]
  refine units_ofRatio f.one_pos hlo hhi ?_ ?_
  · rwa [hsigned]
  · rwa [hsigned]

-- ---------------------------------------------------------------------------
-- Bounded numbers
-- ---------------------------------------------------------------------------

def AtMost (bound : Nat) (x : Binary f) : Prop := ∃ a, x.toUnits? = some a ∧ a.natAbs ≤ bound

theorem AtMost.isFinite {bound : Nat} (h : x.AtMost bound) : x.isFinite = true := by
  obtain ⟨a, hx, -⟩ := h
  exact isFinite_iff.mpr ⟨a, hx⟩

theorem AtMost.add {m n : Nat} (hx : x.AtMost m) (hy : y.AtMost n) (h : f.Fits (m + n)) :
    (x + y).AtMost (m + n) := by
  obtain ⟨a, hx, ha⟩ := hx
  obtain ⟨b, hy, hb⟩ := hy
  have hfits : f.Fits ((m + n : Nat) : Int).natAbs := by rwa [Int.natAbs_natCast]
  have hfits' : f.Fits (-((m + n : Nat) : Int)).natAbs := by rwa [Int.natAbs_neg]
  obtain ⟨c, hc, hlo, hhi⟩ := units_add hx hy hfits' hfits (by omega) (by omega)
  exact ⟨c, hc, by omega⟩

theorem AtMost.convert {m n : Nat} (hx : x.AtMost m) (hn : g.Fits n)
    (h : m * g.one ≤ n * f.one) : (x.convert g).AtMost n := by
  obtain ⟨a, hx, ha⟩ := hx
  have hfits : g.Fits (n : Int).natAbs := by rwa [Int.natAbs_natCast]
  have hfits' : g.Fits (-(n : Int)).natAbs := by rwa [Int.natAbs_neg]
  have hle : (m : Int) * g.one ≤ n * f.one := by exact_mod_cast h
  have hhigh : a * g.one ≤ n * f.one :=
    le_trans (Int.mul_le_mul_of_nonneg_right (by omega) (Int.natCast_nonneg _)) hle
  have hlow : -(n : Int) * f.one ≤ a * g.one := by
    have hscale : -a * g.one ≤ m * g.one :=
      Int.mul_le_mul_of_nonneg_right (by omega) (Int.natCast_nonneg _)
    rw [Int.neg_mul] at hscale ⊢
    omega
  obtain ⟨c, hc, hlo, hhi⟩ := units_convert hx hfits' hfits hlow hhigh
  exact ⟨c, hc, by omega⟩

-- ---------------------------------------------------------------------------
-- Integers
-- ---------------------------------------------------------------------------

theorem units_ofInt {n : Int} (h : f.Fits (n.natAbs * f.one)) :
    (ofInt n : Binary f).toUnits? = some (n * f.one) := by
  have hsigned : signed (decide (n < 0)) (n.natAbs * f.one) = n * f.one := by
    by_cases hn : n < 0
    · have habs : (n.natAbs : Int) = -n := by omega
      simp [signed, hn, habs]
    · have habs : (n.natAbs : Int) = n := by omega
      simp [signed, hn, habs]
  rw [ofInt, ofRatio_units _ _ h]
  exact congrArg some hsigned

/-- An integer that both formats represent survives the conversion, its sign included. -/
theorem convert_ofInt {n : Int} (hf : f.Fits (n.natAbs * f.one)) (hg : g.Fits (n.natAbs * g.one)) :
    (ofInt n : Binary f).convert g = ofInt n := by
  rw [ofInt, ofInt, ofRatio_units _ _ hf, ofRatio_units _ _ hg, convert, Nat.mul_right_comm]
  exact ofRatio_mul f.one_pos hg

theorem units_one (hf : f.precision + f.unitExponent ≤ f.width) :
    (1 : Binary f).toUnits? = some (f.one : Int) := by
  have hfits : f.Fits ((1 : Int).natAbs * f.one) := by
    rw [Int.natAbs_one, Nat.one_mul]
    exact Format.fits_one hf
  have h : (ofInt 1 : Binary f).toUnits? = some (1 * (f.one : Int)) := units_ofInt hfits
  rwa [Int.one_mul] at h

theorem units_fraction {m : Nat} (hx : x.toUnits? = some (m : Int)) :
    (x - ofInt (m / f.one : Nat)).toUnits? = some ((m % f.one : Nat) : Int) := by
  have hm : f.Fits m := fits_of_units hx
  have hpart : (ofInt (m / f.one : Nat) : Binary f).toUnits? = some ((m / f.one : Nat) * f.one) :=
    units_ofInt (Format.fits_part hm).1
  have hrest : (m : Int) - (m / f.one : Nat) * f.one = (m % f.one : Nat) := by
    have := Nat.div_add_mod' m f.one
    omega
  rw [← hrest]
  refine units_sub_of_fits hx hpart ?_
  rw [hrest]
  exact (Format.fits_part hm).2

end Binary

end TerrainTiles
