import TerrainTiles.Decimal.Literal
import TerrainTiles.Text.Blank
import TerrainTiles.Text.Split

/-!
# Numbers in text fields

A field that wants a number also takes text that holds one. Text for an integer
is tidied first: the blanks around it go, then a plus sign, the zeros in front, a
fraction of zeros and the underscores between digits. What is left has to be a
plain numeral. Zeros in front may have underscores among them and end at a minus
sign as well as at a digit; a minus sign at the very start keeps what follows it.

Text for a real has blanks around it or underscores in it, but not both.
-/

namespace TerrainTiles.Json.Numeral

inductive Problem where
  | malformed
  | tooLong
  deriving DecidableEq, Repr

/-- Underscores are dropped if each stands between two other characters. -/
def dropUnderscores : List Char → Option (List Char)
  | [] => some []
  | '_' :: _ => none
  | [c] => some [c]
  | c :: '_' :: rest => if rest = [] then none else (dropUnderscores rest).map (c :: ·)
  | c :: rest => (dropUnderscores rest).map (c :: ·)

-- ---------------------------------------------------------------------------
-- Integers
-- ---------------------------------------------------------------------------

def dropPlus : List Char → Option (List Char)
  | '+' :: '-' :: _ => none
  | '+' :: rest => some rest
  | cs => some cs

/-- Whether a character starts what stays of an integer. -/
def isLead (c : Char) : Bool := c = '-' || (c.isDigit && c ≠ '0')

/-- What stays after zeros and underscores, the latest of which is `last`. It is
kept before a point and at the end of the text. -/
def afterZeros (last : Char) : List Char → Option (List Char)
  | [] => some [last]
  | c :: rest =>
    if c = '0' ∨ c = '_' then afterZeros c rest
    else if c = '.' then some (last :: c :: rest)
    else if isLead c then some (c :: rest)
    else none

def dropZeros : List Char → Option (List Char)
  | [] => none
  | c :: rest =>
    if c = '0' then afterZeros c rest else if isLead c then some (c :: rest) else none

/-- Drops a point with at least one zero and nothing else after it. -/
def dropFraction (cs : List Char) : List Char :=
  match Text.splitFirst? '.' cs with
  | some (whole, '0' :: zeros) => if zeros.all (· = '0') then whole else cs
  | _ => cs

def tidy (cs : List Char) : Option (List Char) := do
  let cs ← dropZeros (← dropPlus (Text.trimBlanks cs))
  let cs := dropFraction cs
  return (dropUnderscores cs).getD cs

def maxDigits : Nat := 4300

/-- A zero alone, or digits that start with another one. Digits beyond the limit
are refused before anything after them is looked at. -/
def magnitude (cs : List Char) : Except Problem Nat :=
  let digits := cs.takeWhile Char.isDigit
  if cs = ['0'] then .ok 0
  else if cs.head? = some '0' ∨ digits = [] then .error .malformed
  else if maxDigits < digits.length then .error .tooLong
  else if digits.length < cs.length then .error .malformed
  else .ok (Literal.digitsValue digits)

def integer (text : String) : Except Problem Int :=
  match tidy text.toList with
  | some ('-' :: cs) => (magnitude cs).map fun n => -(n : Int)
  | some cs => (magnitude cs).map fun n => (n : Int)
  | none => .error .malformed

-- ---------------------------------------------------------------------------
-- Reals
-- ---------------------------------------------------------------------------

def real? (text : String) : Option Double :=
  let literal := match Literal.parse? (String.ofList (Text.trimBlanks text.toList)) with
    | some literal => some literal
    | none => (dropUnderscores text.toList).bind fun cs => Literal.parse? (String.ofList cs)
  literal.map (·.toBinary Format.binary64)

-- ---------------------------------------------------------------------------
-- Small laws
-- ---------------------------------------------------------------------------

theorem not_mem_dropUnderscores {cs left : List Char} (h : dropUnderscores cs = some left) :
    '_' ∉ left := by
  fun_induction dropUnderscores cs generalizing left with
  | case1 => cases h; simp
  | case2 => simp at h
  | case3 c hc => cases h; simpa using Ne.symm hc
  | case4 => simp at h
  | case5 c rest hc _ ih =>
    obtain ⟨tail, ht, rfl⟩ := Option.map_eq_some_iff.mp h
    simpa [ih ht] using Ne.symm hc
  | case6 c rest hc _ _ ih =>
    obtain ⟨tail, ht, rfl⟩ := Option.map_eq_some_iff.mp h
    simpa [ih ht] using Ne.symm hc

end TerrainTiles.Json.Numeral
