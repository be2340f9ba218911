import TerrainTiles.Decimal.Basic

/-!
# Reading numbers

The written forms of a number: an optional sign, digits with an optional point
and at least one digit, an optional exponent; or the words `inf`, `infinity` and
`nan` in any case. Reading rounds the exact value once.
-/

namespace TerrainTiles

inductive Literal where
  | nan
  | infinite (negative : Bool)
  | decimal (negative : Bool) (value : Decimal)
  deriving DecidableEq, Repr

namespace Literal

def toBinary (f : Format) : Literal → Binary f
  | .nan => .nan
  | .infinite negative => .infinite negative
  | .decimal negative value => value.toBinary f negative

def digitsValue (cs : List Char) : Nat :=
  cs.foldl (fun n c => 10 * n + (c.toNat - '0'.toNat)) 0

/-- An optional sign, true for minus, and what follows it. -/
def splitSign : List Char → Bool × List Char
  | '-' :: rest => (true, rest)
  | '+' :: rest => (false, rest)
  | cs => (false, cs)

/-- An exponent with its mark; no text is the exponent zero. -/
def exponent? : List Char → Option Int
  | [] => some 0
  | c :: rest =>
    let (negative, digits) := splitSign rest
    if (c = 'e' ∨ c = 'E') ∧ digits ≠ [] ∧ digits.all Char.isDigit then
      some (if negative then -(digitsValue digits : Int) else digitsValue digits)
    else none

def decimal? (cs : List Char) : Option Decimal := do
  let whole := cs.takeWhile Char.isDigit
  let rest := cs.dropWhile Char.isDigit
  let (fraction, tail) := match rest with
    | '.' :: more => (more.takeWhile Char.isDigit, more.dropWhile Char.isDigit)
    | _ => ([], rest)
  if whole = [] ∧ fraction = [] then none
  else
    let e ← exponent? tail
    some ⟨digitsValue (whole ++ fraction), e - fraction.length⟩

def parse? (text : String) : Option Literal :=
  let (negative, cs) := splitSign text.toList
  match String.ofList (cs.map Char.toLower) with
  | "inf" | "infinity" => some (.infinite negative)
  | "nan" => some .nan
  | _ => (decimal? cs).map (.decimal negative)

end Literal

end TerrainTiles
