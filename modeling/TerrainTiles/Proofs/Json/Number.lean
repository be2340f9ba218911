import TerrainTiles.Json.Basic
import TerrainTiles.Proofs.Decimal.Padded

/-!
# Numbers in JSON text

`NumberText` is the grammar of a number: an optional minus sign, an integer without zeros
in front, an optional fraction and an optional exponent. The shortest digits of a number
other than zero do not begin with a zero (`text_eq_cons`), and both ways of setting them
follow the grammar, so a real is written as a number exactly if it is finite
(`numberText_write_iff`). What is not finite becomes null.
-/

namespace TerrainTiles

-- ---------------------------------------------------------------------------
-- The first digit
-- ---------------------------------------------------------------------------

theorem toDigits_eq_cons {n : Nat} (h : n ≠ 0) :
    ∃ first rest, Nat.toDigits 10 n = first :: rest ∧ first ≠ '0' := by
  induction n using Nat.strongRecOn with
  | ind n ih =>
    rcases Nat.lt_or_ge n 10 with hlt | hge
    · exact ⟨_, _, Nat.toDigits_of_lt_base hlt, by simpa using h⟩
    · obtain ⟨first, rest, hdigits, hfirst⟩ := ih (n / 10) (by omega) (by omega)
      refine ⟨first, rest ++ [(n % 10).digitChar], ?_, hfirst⟩
      rw [Nat.toDigits_of_base_le (by decide) hge, hdigits, List.cons_append]

namespace Decimal

variable {d : Decimal}

theorem digits_trim_ne_zero (h : d.digits ≠ 0) (fuel : Nat) : (d.trim fuel).digits ≠ 0 := by
  induction fuel generalizing d with
  | zero => exact h
  | succ fuel ih =>
    rw [trim]
    split
    · exact ih (by dsimp only; omega)
    · exact h

theorem text_eq_cons (h : d.digits ≠ 0) : ∃ first rest, d.text = first :: rest ∧ first ≠ '0' :=
  toDigits_eq_cons h

theorem isDigit_of_mem_text {c : Char} (h : c ∈ d.text) : c.isDigit :=
  Nat.isDigit_of_mem_toDigits (by decide) (by decide) h

end Decimal

namespace Binary

variable {f : Format} {units : Nat} {d : Decimal}

theorem digits_of_readsBack (hunits : units ≠ 0) (h : ReadsBack f units d) : d.digits ≠ 0 := by
  intro hzero
  have hread : some (0 : Int) = some (units : Int) := by
    simpa [ReadsBack, Decimal.toBinary, ofDecimal, hzero, zero, toUnits?] using h
  exact hunits (Int.ofNat_eq_zero.mp (Option.some.inj hread).symm)

theorem readsBack_of_withDigits {point : Int} {count : Nat}
    (h : withDigits? f units point count = some d) : ReadsBack f units d := by
  unfold withDigits? at h
  dsimp only at h
  split at h
  · next hback => exact Option.some.inj h ▸ hback
  · split at h
    · next hback => exact Option.some.inj h ▸ hback
    · split at h
      · next hback => exact Option.some.inj h ▸ hback
      · cases h

theorem digits_shortest_ne_zero (h : units ≠ 0) : (shortest f units).digits ≠ 0 := by
  refine Decimal.digits_trim_ne_zero ?_ _
  cases hfound : (List.range f.precision).findSome? fun k =>
      withDigits? f units (decimalPoint units f.one) (k + 1) with
  | some d =>
    obtain ⟨k, -, hk⟩ := List.exists_of_findSome?_eq_some hfound
    exact digits_of_readsBack h (readsBack_of_withDigits hk)
  | none => exact Nat.mul_ne_zero h (Nat.ne_of_gt (Nat.pow_pos (by decide)))

end Binary

namespace Json

-- ---------------------------------------------------------------------------
-- Grammar
-- ---------------------------------------------------------------------------

def IsDigits (cs : List Char) : Prop := cs ≠ [] ∧ ∀ c ∈ cs, c.isDigit

inductive IsWhole : List Char → Prop
  | zero : IsWhole ['0']
  | digits {first : Char} {rest : List Char} (hfirst : first ≠ '0')
      (h : ∀ c ∈ first :: rest, c.isDigit) : IsWhole (first :: rest)

inductive IsFraction : List Char → Prop
  | none : IsFraction []
  | point {cs : List Char} (h : IsDigits cs) : IsFraction ('.' :: cs)

inductive IsExponent : List Char → Prop
  | none : IsExponent []
  | unsigned {mark : Char} {cs : List Char} (hmark : mark = 'e' ∨ mark = 'E') (h : IsDigits cs) :
      IsExponent (mark :: cs)
  | signed {mark sign : Char} {cs : List Char} (hmark : mark = 'e' ∨ mark = 'E')
      (hsign : sign = '+' ∨ sign = '-') (h : IsDigits cs) : IsExponent (mark :: sign :: cs)

def MagnitudeText (cs : List Char) : Prop :=
  ∃ whole fraction exponent, cs = whole ++ (fraction ++ exponent) ∧
    IsWhole whole ∧ IsFraction fraction ∧ IsExponent exponent

def NumberText (cs : List Char) : Prop :=
  MagnitudeText cs ∨ ∃ magnitude, cs = '-' :: magnitude ∧ MagnitudeText magnitude

def IsNumber (value : Json) : Prop := NumberText value.text.toList

variable {cs rest : List Char} {first : Char} {d : Decimal}

theorem MagnitudeText.head (h : MagnitudeText cs) : ∃ c rest, cs = c :: rest ∧ c.isDigit := by
  obtain ⟨whole, fraction, exponent, rfl, hwhole, -, -⟩ := h
  cases hwhole with
  | zero => exact ⟨_, _, rfl, by decide⟩
  | digits _ hdigits => exact ⟨_, _, rfl, hdigits _ List.mem_cons_self⟩

theorem not_numberText_null : ¬NumberText "null".toList := by
  rintro (h | ⟨magnitude, h, -⟩)
  · obtain ⟨c, rest, hcons, hdigit⟩ := h.head
    obtain rfl : 'n' = c := (List.cons.inj hcons).1
    exact absurd hdigit (by decide)
  · exact absurd (List.cons.inj h).1 (by decide)

-- ---------------------------------------------------------------------------
-- Layout
-- ---------------------------------------------------------------------------

theorem isDigits_zero : IsDigits ['0'] :=
  ⟨List.cons_ne_nil _ _, List.forall_mem_singleton.mpr rfl⟩

theorem isDigits_padded (width n : Nat) : IsDigits (padded width n) :=
  ⟨fun h => Nat.toDigits_ne_nil (List.append_eq_nil_iff.mp h).2, fun _ => isDigit_of_mem_padded⟩

theorem isExponent_exponentText (width : Nat) (e : Int) : IsExponent (exponentText width e) := by
  refine .signed (.inl rfl) ?_ (isDigits_padded width e.natAbs)
  split
  · exact .inr rfl
  · exact .inl rfl

theorem isDigit_of_mem_zeros {c : Char} {count : Nat} (h : c ∈ zeros count) : c.isDigit := by
  rw [List.eq_of_mem_replicate h]
  decide

theorem magnitudeText_positional (hfirst : first ≠ '0')
    (h : ∀ c ∈ first :: rest, c.isDigit) (point : Int) :
    MagnitudeText (positional (first :: rest) point) := by
  unfold positional
  split
  · have hfraction : IsDigits (zeros (-point).toNat ++ first :: rest) := by
      refine ⟨by simp, fun c hc => ?_⟩
      rcases List.mem_append.mp hc with hzero | hdigit
      · exact isDigit_of_mem_zeros hzero
      · exact h c hdigit
    exact ⟨['0'], _, [], by simp, .zero, .point hfraction, .none⟩
  · next hpoint =>
    dsimp only
    split
    · have hwhole : IsWhole (first :: (rest ++ zeros (point.toNat - (first :: rest).length))) := by
        refine .digits hfirst fun c hc => ?_
        rcases List.mem_append.mp (List.cons_append ▸ hc) with hdigit | hzero
        · exact h c hdigit
        · exact isDigit_of_mem_zeros hzero
      exact ⟨_, ['.', '0'], [], by simp, hwhole, .point isDigits_zero, .none⟩
    · next hlength =>
      -- The point is after the first digit and before the last one.
      obtain ⟨k, hk⟩ : ∃ k, point.toNat = k + 1 := Nat.exists_eq_succ_of_ne_zero (by omega)
      rw [hk] at hlength ⊢
      rw [List.take_succ_cons, List.drop_succ_cons]
      have hwhole : IsWhole (first :: rest.take k) := by
        refine .digits hfirst fun c hc => h c ?_
        exact List.mem_cons.mpr ((List.mem_cons.mp hc).imp_right List.mem_of_mem_take)
      have hfraction : IsDigits (rest.drop k) := by
        refine ⟨?_, fun c hc => h c (List.mem_cons_of_mem _ (List.mem_of_mem_drop hc))⟩
        simp only [ne_eq, List.drop_eq_nil_iff, Nat.not_le]
        simp only [List.length_cons] at hlength
        omega
      exact ⟨_, _, [], by simp, hwhole, .point hfraction, .none⟩

theorem magnitudeText_scientific (hfirst : first ≠ '0')
    (h : ∀ c ∈ first :: rest, c.isDigit) (width : Nat) (e : Int) :
    MagnitudeText (scientific width (first :: rest) e) := by
  have hexponent := isExponent_exponentText width e
  have hwhole : IsWhole [first] :=
    .digits hfirst fun c hc => h c (List.mem_cons.mpr (.inl (List.mem_singleton.mp hc)))
  cases rest with
  | nil => exact ⟨_, [], _, rfl, hwhole, .none, hexponent⟩
  | cons second rest =>
    have hfraction : IsDigits (second :: rest) :=
      ⟨by simp, fun c hc => h c (List.mem_cons_of_mem _ hc)⟩
    exact ⟨_, _, _, rfl, hwhole, .point hfraction, hexponent⟩

theorem magnitudeText_magnitude (layout : Layout) (h : d.digits ≠ 0) :
    MagnitudeText (layout.magnitude d) := by
  obtain ⟨first, rest, htext, hfirst⟩ := Decimal.text_eq_cons h
  have hdigits : ∀ c ∈ first :: rest, c.isDigit := fun c hc =>
    Decimal.isDigit_of_mem_text (htext ▸ hc)
  unfold Layout.magnitude
  dsimp only
  rw [htext]
  split
  · exact magnitudeText_positional hfirst hdigits _
  · exact magnitudeText_scientific hfirst hdigits _ _

/-- What is written for a real is a number exactly if the real is finite. -/
theorem numberText_write_iff {f : Format} (x : Binary f) :
    NumberText (Layout.json.write x).toList ↔ x.isFinite = true := by
  cases x with
  | nan => exact iff_of_false not_numberText_null Bool.false_ne_true
  | infinite p =>
    refine iff_of_false ?_ Bool.false_ne_true
    cases p <;> exact not_numberText_null
  | finite p units hunits =>
    refine iff_of_true ?_ rfl
    have hmagnitude : MagnitudeText (if units = 0 then ['0', '.', '0'] else
        Layout.json.magnitude (Binary.shortest f units)) := by
      split
      · exact ⟨['0'], ['.', '0'], [], rfl, .zero, .point isDigits_zero, .none⟩
      · next hne => exact magnitudeText_magnitude _ (Binary.digits_shortest_ne_zero hne)
    unfold Layout.write
    dsimp only
    rw [String.toList_ofList]
    cases p with
    | false => exact .inl hmagnitude
    | true => exact .inr ⟨_, rfl, hmagnitude⟩

theorem isNumber_real_iff (x : Double) : (real x).IsNumber ↔ x.isFinite = true := by
  rw [IsNumber, text]
  exact numberText_write_iff x

theorem not_isNumber_null : ¬null.IsNumber := by
  rw [IsNumber, text]
  exact not_numberText_null

theorem isNumber_ofOption_iff (x : Option Double) :
    (ofOption real x).IsNumber ↔ ∃ y, x = some y ∧ y.isFinite = true := by
  cases x with
  | none => exact iff_of_false not_isNumber_null (by simp)
  | some x => simp [ofOption, isNumber_real_iff]

end Json

end TerrainTiles
