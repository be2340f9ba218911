import TerrainTiles.Proofs.Binary.Units

/-!
# Floors of quotients

A quotient can be rounded up to the next integer only from less than half a gap below it.
A number and a multiple of a small integer `n` differ by a gap of the number at least,
which is more than `n / 2` gaps around the quotient (`mul_gap_div_lt`). So dividing by a
small integer does not carry a number past an integer, and the floor of the rounded
quotient is the integer quotient (`floor?_div`).
-/

namespace TerrainTiles

-- ---------------------------------------------------------------------------
-- Rounding
-- ---------------------------------------------------------------------------

/-- From more than one half below an integer nothing is rounded to it. -/
theorem nearest_lt {num den k : Nat} (h : 2 * num + den < 2 * (k * den)) :
    nearest num den < k := by
  have hnum : num = den * (num / den) + num % den := (Nat.div_add_mod num den).symm
  have below {q : Nat} (hq : q * den < k * den) : q < k := Nat.lt_of_mul_lt_mul_right hq
  have hquotient : den * (num / den) = num / den * den := Nat.mul_comm ..
  unfold nearest
  dsimp only
  split
  · exact below (by omega)
  · have hnext : num / den + 1 < k := below (by rw [Nat.add_mul]; omega)
    split
    · exact hnext
    · omega

theorem nearest_mul_mul {num den d : Nat} (hd : 0 < d) :
    nearest (num * d) (den * d) = nearest num den := by
  have hhalf (r : Nat) : 2 * (r * d) = 2 * r * d := (Nat.mul_assoc ..).symm
  simp only [nearest, Nat.mul_div_mul_right _ _ hd, Nat.mul_mod_mul_right, hhalf,
    Nat.mul_lt_mul_right hd]

namespace Format

variable {f : Format} {m n k u num den : Nat}

theorem round_mul_mul {d : Nat} (hd : 0 < d) : f.round (num * d) (den * d) = f.round num den := by
  simp only [round, Nat.mul_div_mul_right _ _ hd, Nat.mul_right_comm den d, nearest_mul_mul hd]

theorem round_lt (hu : f.gap (num / den) ∣ u)
    (h : 2 * num + den * f.gap (num / den) < 2 * (u * den)) : f.round num den < u := by
  obtain ⟨k, hk⟩ := hu
  unfold round
  dsimp only
  have hgap := f.gap_pos (num / den)
  generalize f.gap (num / den) = gap at hk h hgap
  have hnearest : nearest num (den * gap) < k := by
    refine nearest_lt ?_
    calc 2 * num + den * gap < 2 * (u * den) := h
      _ = 2 * (k * (den * gap)) := by rw [hk]; ring
  calc nearest num (den * gap) * gap < k * gap := Nat.mul_lt_mul_of_pos_right hnearest hgap
    _ = u := by rw [hk, Nat.mul_comm]

theorem mul_gap_div_lt (hn : 0 < n) (h : 2 ^ f.precision ≤ m / n) :
    n * f.gap (m / n) < 2 * f.gap m := by
  have hquotient : m / n ≠ 0 := Nat.ne_of_gt (Nat.lt_of_lt_of_le (Nat.two_pow_pos _) h)
  have hm : m ≠ 0 := by
    rintro rfl
    exact hquotient (Nat.zero_div n)
  have hlog : (m / n).log2 + n.log2 ≤ m.log2 := by
    rw [Nat.le_log2 hm, Nat.pow_add]
    calc 2 ^ (m / n).log2 * 2 ^ n.log2 ≤ m / n * n :=
          Nat.mul_le_mul (Nat.log2_self_le hquotient) (Nat.log2_self_le (Nat.ne_of_gt hn))
      _ ≤ m := Nat.div_mul_le_self m n
  have hprecision : f.precision ≤ (m / n).log2 := (Nat.le_log2 hquotient).mpr h
  have hexponent : n.log2 + 1 + f.gapExponent (m / n) ≤ f.gapExponent m + 1 := by
    unfold gapExponent
    omega
  rw [gap_eq, gap_eq]
  calc n * 2 ^ f.gapExponent (m / n) < 2 ^ (n.log2 + 1) * 2 ^ f.gapExponent (m / n) :=
        Nat.mul_lt_mul_of_pos_right Nat.lt_log2_self (Nat.two_pow_pos _)
    _ = 2 ^ (n.log2 + 1 + f.gapExponent (m / n)) := (Nat.pow_add ..).symm
    _ ≤ 2 ^ (f.gapExponent m + 1) := Nat.pow_le_pow_right Nat.two_pos hexponent
    _ = 2 * 2 ^ f.gapExponent m := by rw [Nat.pow_succ, Nat.mul_comm]

/-- The quotient by a small integer is rounded to a number below every integer above it. -/
theorem round_div_lt (hf : f.precision + f.unitExponent ≤ f.width)
    (hp : f.precision < f.unitExponent) (hn : 0 < n) (hm : f.Fits m) (hone : f.gap m ∣ f.one)
    (h : m < k * f.one * n) : f.round m n < k * f.one := by
  have hk : 0 < k := by
    rcases Nat.eq_zero_or_pos k with rfl | hk
    · simp at h
    · exact hk
  rcases Nat.lt_or_ge (m / n) (2 ^ f.precision) with hlow | hhigh
  · -- Among the smallest numbers, far below one, the gap does not narrow any more.
    have hfits : f.Fits (1 * 2 ^ f.precision) := by
      refine fits_mul_pow (Nat.one_lt_two_pow (Nat.ne_of_gt f.precision_pos)) ?_
      rw [Nat.one_mul, bound, Nat.pow_eq]
      exact Nat.pow_lt_pow_right (by decide) (by omega)
    rw [Nat.one_mul] at hfits
    have hle : m ≤ 2 ^ f.precision * n := Nat.le_of_lt ((Nat.div_lt_iff_lt_mul hn).mp hlow)
    calc f.round m n ≤ 2 ^ f.precision := f.round_le hn hfits hle
      _ < f.one := by
        rw [one_eq]
        exact Nat.pow_lt_pow_right (by decide) hp
      _ ≤ k * f.one := Nat.le_mul_of_pos_left _ hk
  · refine round_lt ?_ ?_
    · have hgap : f.gap (m / n) ∣ f.one := Nat.dvd_trans (gap_dvd_gap (Nat.div_le_self m n)) hone
      exact Nat.dvd_mul_left_of_dvd hgap k
    · have hdvd : f.gap m ∣ k * f.one * n - m :=
        Nat.dvd_sub (Nat.dvd_mul_right_of_dvd (Nat.dvd_mul_left_of_dvd hone k) n) hm.1
      have hstep : f.gap m ≤ k * f.one * n - m := Nat.le_of_dvd (by omega) hdvd
      have hnarrow := mul_gap_div_lt (f := f) hn hhigh
      omega

end Format

-- ---------------------------------------------------------------------------
-- Floors
-- ---------------------------------------------------------------------------

namespace Binary

variable {f : Format} {x : Binary f} {m n : Nat}

theorem units_of_round {p : Bool} {num den : Nat} (h : f.round num den < f.bound) :
    (ofRatio p num den : Binary f).toUnits? = some (signed p (f.round num den)) := by
  simp [ofRatio, h, toUnits?, signed]

theorem floor?_div (hf : f.precision + f.unitExponent ≤ f.width)
    (hp : f.precision < f.unitExponent) (hx : x.toUnits? = some (m : Int))
    (hm : m < 2 ^ f.precision * f.one) (hn : 0 < n) (hn' : n < 2 ^ f.precision) :
    (x / ofInt n).floor? = some ((m / (n * f.one) : Nat) : Int) := by
  obtain ⟨p, u, hu, rfl, hsigned⟩ := toUnits?_eq_some.mp hx
  obtain rfl : u = m := by
    have := congrArg Int.natAbs hsigned
    rwa [natAbs_signed, Int.natAbs_natCast] at this
  have hdivisor : (ofInt n : Binary f) = finite false (n * f.one) (Format.fits_mul_one hf hn') :=
    ofRatio_units _ _ _
  have hpos : 0 < n * f.one := Nat.mul_pos hn f.one_pos
  have hdiv : finite p u hu / ofInt n = ofRatio p (u * f.one) (n * f.one) := by
    rw [hdivisor]
    exact (if_neg (Nat.ne_of_gt hpos)).trans (by rw [Bool.bne_false])
  have hround : f.round (u * f.one) (n * f.one) = f.round u n :=
    Format.round_mul_mul f.one_pos
  -- The integer quotient is a bound from below, the next integer from above.
  have hquotient : u / (n * f.one) < 2 ^ f.precision := by
    rw [Nat.div_lt_iff_lt_mul hpos]
    calc u < 2 ^ f.precision * f.one := hm
      _ ≤ 2 ^ f.precision * (n * f.one) := by
        exact Nat.mul_le_mul_left _ (Nat.le_mul_of_pos_left _ hn)
  have hlow : u / (n * f.one) * f.one ≤ f.round u n := by
    refine f.le_round hn (Format.fits_mul_one hf hquotient) ?_
    rw [Nat.mul_assoc, Nat.mul_comm f.one n]
    exact Nat.div_mul_le_self u (n * f.one)
  have hhigh : f.round u n < (u / (n * f.one) + 1) * f.one := by
    have hone : f.gap u ∣ f.one := by
      rw [Format.one_eq] at hm ⊢
      exact Format.gap_dvd_pow (by rwa [Nat.add_comm, Nat.pow_add])
    refine Format.round_div_lt hf hp hn hu hone ?_
    rw [Nat.mul_assoc, Nat.mul_comm f.one n]
    exact Nat.lt_mul_of_div_lt (Nat.lt_succ_self _) hpos
  have hbound : f.round u n < f.bound := by
    calc f.round u n < (u / (n * f.one) + 1) * f.one := hhigh
      _ ≤ 2 ^ f.precision * f.one := Nat.mul_le_mul_right _ hquotient
      _ = 2 ^ (f.precision + f.unitExponent) := by rw [Format.one_eq, Nat.pow_add]
      _ ≤ f.bound := Nat.pow_le_pow_right Nat.two_pos hf
  have hunits : (finite p u hu / ofInt n : Binary f).toUnits? = some (f.round u n : Int) := by
    rw [hdiv, units_of_round (by rwa [hround]), hround]
    cases p with
    | false => rfl
    | true =>
      -- Of the negative numbers only zero has the units of a natural number.
      obtain rfl : u = 0 := by
        simp only [signed, if_true] at hsigned
        omega
      rw [Nat.le_zero.mp (f.round_le hn f.fits_zero (Nat.zero_le _))]
      rfl
  rw [floor?, hunits, Option.map_some]
  refine congrArg some ?_
  rw [← Int.natCast_ediv, Nat.div_eq_of_lt_le hlow hhigh]

end Binary

end TerrainTiles
