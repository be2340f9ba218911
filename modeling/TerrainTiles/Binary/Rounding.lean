import TerrainTiles.Binary.Format

/-!
# Rounding to a format

`nearest` rounds a quotient of naturals to an integer, a half going to the even
neighbour. `Format.round` applies it on the grid of the binade that holds the
quotient. `Format.gap_dvd_round` is the reason that a rounded quotient below the
format's bound is a number of the format: rounding up can only reach the next
power of two, which lies on the coarser grid as well.
-/

namespace TerrainTiles

/-- The integer nearest to `num / den`; a half goes to the even neighbour. -/
def nearest (num den : Nat) : Nat :=
  let quotient := num / den
  let twice := 2 * (num % den)
  if twice < den then quotient
  else if den < twice then quotient + 1
  else quotient + quotient % 2

theorem nearest_le (num den : Nat) : nearest num den ≤ num / den + 1 := by
  unfold nearest
  dsimp only
  split
  · omega
  · split
    · omega
    · have := Nat.mod_lt (num / den) (by decide : 2 > 0)
      omega

theorem div_le_nearest (num den : Nat) : num / den ≤ nearest num den := by
  unfold nearest
  dsimp only
  split
  · omega
  · split <;> omega

theorem nearest_one (num : Nat) : nearest num 1 = num := by
  simp [nearest, Nat.mod_one]

/-- A multiple of the divisor is its own rounding. -/
theorem nearest_mul (quotient den : Nat) (h : 0 < den) : nearest (quotient * den) den = quotient := by
  simp [nearest, Nat.mul_mod_left, Nat.mul_div_cancel _ h, h]

namespace Format

variable (f : Format)

/-- `num / den` units, rounded to the grid of its binade. The result may lie
at or above the format's bound; that is an overflow. -/
def round (num den : Nat) : Nat :=
  let gap := f.gap (num / den)
  nearest num (den * gap) * gap

private theorem nearest_le_pow (num den : Nat) :
    nearest num (den * f.gap (num / den)) ≤ Nat.pow 2 f.precision := by
  refine Nat.le_trans (nearest_le _ _) ?_
  rw [Nat.pow_eq]
  have hq : num / den < 2 ^ (f.gapExponent (num / den) + f.precision) := by
    refine Nat.lt_of_lt_of_le Nat.lt_log2_self (Nat.pow_le_pow_right (by decide) ?_)
    unfold gapExponent
    omega
  rw [← Nat.div_div_eq_div_mul]
  have : num / den / f.gap (num / den) < 2 ^ f.precision := by
    rw [Nat.div_lt_iff_lt_mul (f.gap_pos _)]
    rwa [gap, Nat.pow_eq, ← Nat.pow_add, Nat.add_comm]
  omega

theorem gap_dvd_round (num den : Nat) :
    f.gap (f.round num den) ∣ f.round num den := by
  have hle := f.nearest_le_pow num den
  unfold round
  dsimp only
  generalize nearest num (den * f.gap (num / den)) = q at hle
  unfold gap
  rw [Nat.pow_eq] at hle
  simp only [Nat.pow_eq]
  generalize f.gapExponent (num / den) = k
  by_cases hz : q = 0
  · simp [hz]
  have hp := f.precision_pos
  rcases Nat.lt_or_eq_of_le hle with hlt | heq
  · refine Nat.dvd_trans (Nat.pow_dvd_pow 2 ?_) (Nat.dvd_mul_left _ _)
    have hne : q * 2 ^ k ≠ 0 := Nat.mul_ne_zero hz (Nat.ne_of_gt (Nat.two_pow_pos k))
    have : (q * 2 ^ k).log2 < f.precision + k := by
      rw [Nat.log2_lt hne, Nat.pow_add]
      exact Nat.mul_lt_mul_of_pos_right hlt (Nat.two_pow_pos k)
    unfold gapExponent
    omega
  · rw [heq, ← Nat.pow_add]
    refine Nat.pow_dvd_pow 2 ?_
    unfold gapExponent
    rw [Nat.log2_two_pow]
    omega

theorem round_fits (num den : Nat) (h : f.round num den < f.bound) :
    f.Fits (f.round num den) :=
  ⟨f.gap_dvd_round num den, h⟩

/-- A representable magnitude is its own rounding. -/
theorem round_of_fits (units : Nat) (h : f.Fits units) : f.round units 1 = units := by
  obtain ⟨⟨q, hq⟩, -⟩ := h
  unfold round
  dsimp only
  rw [Nat.div_one, Nat.one_mul]
  have : nearest units (f.gap units) = q := by
    conv => lhs; arg 1; rw [hq, Nat.mul_comm]
    exact nearest_mul q _ (f.gap_pos units)
  rw [this, Nat.mul_comm]
  exact hq.symm

end Format

end TerrainTiles
