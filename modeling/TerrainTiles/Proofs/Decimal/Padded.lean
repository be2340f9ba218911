import TerrainTiles.Decimal.Layout
import Mathlib.Logic.Function.Basic

/-!
# Padded numerals

The zeros in front of a number do not change what it reads as, so padding keeps numbers
apart, also those that are wider than the padding (`padded_injective`); a minus sign is
no digit, so it keeps integers apart as well (`paddedInt_injective`). Numerals hold
nothing but digits and that sign, and end therefore at the first other character
(`append_cons_inj`).
-/

namespace TerrainTiles

variable {width : Nat} {c mark mark' : Char} {front front' back back' : List Char}

def isNumeralChar (c : Char) : Bool := c = '-' || c.isDigit

theorem isDigit_of_mem_padded {n : Nat} (h : c ∈ padded width n) : c.isDigit := by
  rcases List.mem_append.mp h with hzero | hdigit
  · rw [List.eq_of_mem_replicate hzero]
    decide
  · exact Nat.isDigit_of_mem_toDigits (by decide) (by decide) hdigit

theorem padded_injective (width : Nat) : Function.Injective (padded width) := by
  have hvalue (n : Nat) : Nat.ofDigitChars 10 (padded width n) 0 = n := by
    simp [padded, zeros, Nat.ofDigitChars_append, Nat.ofDigitChars_replicate_zero]
  exact Function.LeftInverse.injective hvalue

theorem toList_paddedInt_of_neg {n : Int} (h : n < 0) :
    (paddedInt width n).toList = '-' :: padded (width - 1) n.natAbs := by
  simp [paddedInt, h]

theorem toList_paddedInt_of_nonneg {n : Int} (h : 0 ≤ n) :
    (paddedInt width n).toList = padded width n.natAbs := by
  simp [paddedInt, Int.not_lt.mpr h]

theorem minus_not_mem_padded (width n : Nat) : '-' ∉ padded width n := fun h =>
  absurd (isDigit_of_mem_padded h) (by decide)

theorem isNumeralChar_of_mem {n : Int} (h : c ∈ (paddedInt width n).toList) :
    isNumeralChar c := by
  have hdigit {w : Nat} (hmem : c ∈ padded w n.natAbs) : isNumeralChar c := by
    simp [isNumeralChar, isDigit_of_mem_padded hmem]
  rcases Int.lt_or_le n 0 with hneg | hnonneg
  · rw [toList_paddedInt_of_neg hneg] at h
    rcases List.mem_cons.mp h with rfl | hmem
    · decide
    · exact hdigit hmem
  · rw [toList_paddedInt_of_nonneg hnonneg] at h
    exact hdigit h

theorem paddedInt_injective (width : Nat) : Function.Injective (paddedInt width) := by
  -- A number with a sign in front is not one without.
  have hsign {m n : Int} (hm : m < 0) (hn : 0 ≤ n) : paddedInt width m ≠ paddedInt width n := by
    intro h
    have hlist := congrArg String.toList h
    rw [toList_paddedInt_of_neg hm, toList_paddedInt_of_nonneg hn] at hlist
    exact minus_not_mem_padded width n.natAbs (hlist ▸ List.mem_cons_self)
  intro m n h
  have hlist := congrArg String.toList h
  rcases Int.lt_or_le m 0 with hm | hm <;> rcases Int.lt_or_le n 0 with hn | hn
  · rw [toList_paddedInt_of_neg hm, toList_paddedInt_of_neg hn] at hlist
    have habs := padded_injective _ (List.cons.inj hlist).2
    omega
  · exact absurd h (hsign hm hn)
  · exact absurd h.symm (hsign hn hm)
  · rw [toList_paddedInt_of_nonneg hm, toList_paddedInt_of_nonneg hn] at hlist
    have habs := padded_injective _ hlist
    omega

theorem append_cons_inj (hfront : ∀ c ∈ front, isNumeralChar c)
    (hfront' : ∀ c ∈ front', isNumeralChar c) (hmark : isNumeralChar mark = false)
    (hmark' : isNumeralChar mark' = false) (h : front ++ mark :: back = front' ++ mark' :: back') :
    front = front' ∧ mark = mark' ∧ back = back' := by
  have htake := congrArg (List.takeWhile isNumeralChar) h
  rw [List.takeWhile_append_of_pos hfront, List.takeWhile_append_of_pos hfront',
    List.takeWhile_cons_of_neg (by simp [hmark]), List.takeWhile_cons_of_neg (by simp [hmark']),
    List.append_nil, List.append_nil] at htake
  subst htake
  simpa using h

end TerrainTiles
