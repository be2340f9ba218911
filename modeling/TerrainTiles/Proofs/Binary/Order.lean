import TerrainTiles.Proofs.Binary.Units

/-!
# The order of floating-point numbers

The numbers of a format, infinities included, are ordered linearly by `le` up to the two
zeros; only not-a-number stands outside (`le_or_lt`, `Binary.le_trans`). Conversion to a format
with a longer significand and a wider range is exact (`units_convert_of_widens`), so it keeps the
order (`le_convert`).
-/

namespace TerrainTiles

namespace Format

variable {f g : Format} {u : Nat}

/-- The significand of a number, and the power of two that it is scaled by. -/
theorem Fits.exists_significand (h : f.Fits u) : ∃ k e, u = k * 2 ^ e ∧ k < 2 ^ f.precision := by
  obtain ⟨k, hk⟩ := h.1
  have hlog : u < 2 ^ (f.gapExponent u + f.precision) := by
    refine Nat.lt_of_lt_of_le Nat.lt_log2_self (Nat.pow_le_pow_right Nat.two_pos ?_)
    unfold gapExponent
    omega
  rw [gap_eq] at hk
  generalize f.gapExponent u = e at hk hlog
  refine ⟨k, e, by rw [hk, Nat.mul_comm], ?_⟩
  rw [hk, Nat.pow_add] at hlog
  exact Nat.lt_of_mul_lt_mul_left hlog

/-- A number stays one of every longer and wider format, however it is scaled. -/
theorem Fits.mul_pow {e : Nat} (h : f.Fits u) (hp : f.precision ≤ g.precision)
    (hw : f.width + e ≤ g.width) : g.Fits (u * 2 ^ e) := by
  obtain ⟨k, e', hu, hk⟩ := h.exists_significand
  have hbound : u * 2 ^ e < g.bound := by
    have hlt : u < 2 ^ f.width := by simpa [bound] using h.2
    rw [bound, Nat.pow_eq]
    calc u * 2 ^ e < 2 ^ f.width * 2 ^ e := Nat.mul_lt_mul_of_pos_right hlt (Nat.two_pow_pos e)
      _ = 2 ^ (f.width + e) := (Nat.pow_add ..).symm
      _ ≤ 2 ^ g.width := Nat.pow_le_pow_right Nat.two_pos hw
  have hscaled : u * 2 ^ e = k * 2 ^ (e' + e) := by rw [hu, Nat.pow_add, Nat.mul_assoc]
  rw [hscaled] at hbound ⊢
  exact fits_mul_pow (Nat.lt_of_lt_of_le hk (Nat.pow_le_pow_right Nat.two_pos hp)) hbound

/-- Every number of the first format is one of the second, whose unit is `2 ^ e` times smaller. -/
structure Widens (f g : Format) (e : Nat) : Prop where
  precision : f.precision ≤ g.precision
  width : f.width + e ≤ g.width
  unitExponent : g.unitExponent = f.unitExponent + e

theorem Widens.one_eq {e : Nat} (h : f.Widens g e) : g.one = f.one * 2 ^ e := by
  rw [Format.one_eq, Format.one_eq, h.unitExponent, Nat.pow_add]

theorem widens_binary64 : binary32.Widens binary64 925 := ⟨by decide, by decide, rfl⟩

end Format

namespace Binary

variable {f g : Format} {x y z : Binary f} {a : Int} {e : Nat}

-- ---------------------------------------------------------------------------
-- Order
-- ---------------------------------------------------------------------------

protected theorem le_refl (h : x.isNaN = false) : x.le x = true := by
  simp [le, (eq_self_iff x).mpr h]

protected theorem le_of_lt (h : x.lt y = true) : x.le y = true := by
  simp [le, h]

theorem le_or_lt (hx : x.isNaN = false) (hy : y.isNaN = false) : x.le y = true ∨ y.lt x = true := by
  cases x with
  | nan => simp at hx
  | infinite p => cases y <;> cases p <;> simp_all [le, lt, eq]
  | finite p m hm =>
    cases y with
    | nan => simp at hy
    | infinite q => cases q <;> simp [le, lt, eq]
    | finite q n hn =>
      simp only [le, lt, eq, Bool.or_eq_true, decide_eq_true_eq]
      omega

protected theorem le_trans (h : x.le y = true) (h' : y.le z = true) : x.le z = true := by
  cases y with
  | nan => cases x <;> simp [le, lt, eq] at h
  | infinite q => cases x <;> cases z <;> cases q <;> simp_all [le, lt, eq]
  | finite q n hn =>
    cases x with
    | nan => simp [le, lt, eq] at h
    | infinite p => cases z <;> cases p <;> simp_all [le, lt, eq]
    | finite p m hm =>
      cases z with
      | nan => simp [le, lt, eq] at h'
      | infinite r => cases r <;> simp_all [le, lt, eq]
      | finite r k hk =>
        simp only [le, lt, eq, Bool.or_eq_true, decide_eq_true_eq] at h h' ⊢
        omega

-- ---------------------------------------------------------------------------
-- Wider formats
-- ---------------------------------------------------------------------------

theorem units_convert_of_widens (hg : f.Widens g e) (hx : x.toUnits? = some a) :
    (x.convert g).toUnits? = some (a * 2 ^ e) := by
  have hfits : g.Fits (a * 2 ^ e).natAbs := by
    rw [Int.natAbs_mul]
    simpa [Int.natAbs_pow] using (fits_of_units hx).mul_pow hg.precision hg.width
  have hscale : a * 2 ^ e * (f.one : Int) = a * g.one := by
    rw [hg.one_eq]
    push_cast
    ring
  obtain ⟨c, hc, hlo, hhi⟩ := units_convert hx hfits hfits hscale.le hscale.ge
  rw [hc, le_antisymm hhi hlo]

theorem le_convert (hg : f.Widens g e) (h : x.le y = true) :
    (x.convert g).le (y.convert g) = true := by
  cases x with
  | nan => cases y <;> simp [le, lt, eq] at h
  | infinite p =>
    cases y with
    | nan => simp [le, lt, eq] at h
    | infinite q => exact h
    | finite q n hn =>
      have hy : (finite q n hn : Binary f).toUnits? = some (signed q n) := rfl
      obtain ⟨q', m, hm, heq, -⟩ := toUnits?_eq_some.mp (units_convert_of_widens hg hy)
      rw [heq]
      simpa [convert, le, lt, eq] using h
  | finite p m hm =>
    have hx : (finite p m hm : Binary f).toUnits? = some (signed p m) := rfl
    have hx' := units_convert_of_widens hg hx
    cases y with
    | nan => simp [le, lt, eq] at h
    | infinite q =>
      obtain ⟨p', k, hk, heq, -⟩ := toUnits?_eq_some.mp hx'
      rw [heq]
      simpa [convert, le, lt, eq] using h
    | finite q n hn =>
      have hy : (finite q n hn : Binary f).toUnits? = some (signed q n) := rfl
      rw [le_iff hx' (units_convert_of_widens hg hy)]
      rw [le_iff hx hy] at h
      exact Int.mul_le_mul_of_nonneg_right h (Int.pow_nonneg (by decide))

end Binary

end TerrainTiles
