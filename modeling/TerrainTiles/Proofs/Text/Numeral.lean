import TerrainTiles.Text.Integer
import Mathlib.Data.Nat.Digits.Defs

/-!
# Numerals

A numeral is a number in decimal notation. Reading one gives the number, however
many zeros it begins with, as long as it has no more digits than are read
(`readInteger_numeral`); a longer one is refused (`readInteger_of_long`).
-/

namespace TerrainTiles.Text

structure Numeral (text : String) (n : Nat) : Prop where
  nonempty : text ≠ ""
  digits : ∀ c ∈ text.toList, c.isDigit
  value : Nat.ofDigits 10 (text.toList.reverse.map fun c => c.toNat - '0'.toNat) = n

variable {text : String} {cs : List Char} {c : Char} {n : Nat}

theorem toNat_of_isDigit (h : c.isDigit) : 48 ≤ c.toNat ∧ c.toNat ≤ 57 := by
  simpa [Char.isDigit, UInt32.le_iff_toNat_le] using h

theorem isBlank_of_isDigit (h : c.isDigit) : isBlank c = false := by
  obtain ⟨hlow, hhigh⟩ := toNat_of_isDigit h
  have hascii : c.toNat < 0x80 := by omega
  simp only [isBlank, hascii, if_true, Bool.or_eq_false_iff, Bool.and_eq_false_iff,
    decide_eq_false_iff_not]
  omega

theorem ofDigits_eq (ds : List Nat) : ofDigits ds = Nat.ofDigits 10 ds.reverse := by
  rw [Nat.ofDigits_eq_foldr, List.foldr_reverse]
  simp [ofDigits, Nat.add_comm]

theorem digitRun?_of_isDigit (h : ∀ c ∈ cs, c.isDigit) :
    digitRun? cs = some (cs.map fun c => c.toNat - '0'.toNat, []) := by
  induction cs with
  | nil => rfl
  | cons c rest ih =>
    obtain ⟨hc, hrest⟩ := List.forall_mem_cons.mp h
    have hne : c ≠ '_' := by rintro rfl; exact absurd hc (by decide)
    rw [digitRun?]
    · simp [decimalDigit?_ascii c hc, ih hrest]
    · simp [hne]
    · simp [hne]

theorem readInteger_of_isDigit (hne : text ≠ "") (hdigits : ∀ c ∈ text.toList, c.isDigit) :
    readInteger text = if maxDigits < text.length then .error (.tooLong text.length)
      else .ok (Nat.ofDigits 10 (text.toList.reverse.map fun c => c.toNat - '0'.toNat) : Nat) := by
  unfold readInteger
  rw [← String.length_toList]
  cases hcs : text.toList with
  | nil => exact absurd (String.toList_eq_nil_iff.mp hcs) hne
  | cons c rest =>
    rw [hcs] at hdigits
    have hc : c.isDigit := hdigits c (by simp)
    -- A digit is neither a blank nor a sign, so nothing comes before the run.
    have hminus : c ≠ '-' := by rintro rfl; exact absurd hc (by decide)
    have hplus : c ≠ '+' := by rintro rfl; exact absurd hc (by decide)
    have hscore : c ≠ '_' := by rintro rfl; exact absurd hc (by decide)
    have hrun := digitRun?_of_isDigit hdigits
    simp only [List.dropWhile_cons, isBlank_of_isDigit hc, Bool.false_eq_true, if_false]
    simp [hminus, hplus, hscore, hrun, ofDigits_eq]

theorem readInteger_numeral (h : Numeral text n) (hshort : text.length ≤ maxDigits) :
    readInteger text = .ok (n : Int) := by
  rw [readInteger_of_isDigit h.nonempty h.digits, if_neg (by omega), h.value]

theorem readInteger_of_long (h : Numeral text n) (hlong : maxDigits < text.length) :
    readInteger text = .error (.tooLong text.length) := by
  rw [readInteger_of_isDigit h.nonempty h.digits, if_pos hlong]

end TerrainTiles.Text
