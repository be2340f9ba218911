import TerrainTiles.Text.Blank
import TerrainTiles.Text.DecimalDigit
import TerrainTiles.Text.Quoted

/-!
# Reading integers

An integer in text is a run of decimal digits of any script with an optional
sign before it and blanks around it; single underscores may stand between
digits. More than 4300 digits are refused before anything after them is looked
at.
-/

namespace TerrainTiles.Text

inductive IntegerError where
  | malformed (text : String)
  | tooLong (digits : Nat)
  deriving DecidableEq, Repr

namespace IntegerError

/-- Malformed text is quoted, cut after 200 characters. -/
def message : IntegerError → String
  | malformed text =>
    "invalid literal for int() with base 10: " ++ String.ofList ((quoted text).toList.take 200)
  | tooLong digits =>
    s!"Exceeds the limit (4300 digits) for integer string conversion: value has {digits} " ++
      "digits; use sys.set_int_max_str_digits() to increase the limit"

end IntegerError

/-- The digits that follow, with an underscore allowed before each but the
first, and the rest. `none` if an underscore has no digit after it. -/
def digitRun? : List Char → Option (List Nat × List Char)
  | '_' :: c :: rest =>
    match decimalDigit? c with
    | some d => (digitRun? rest).map fun (ds, tail) => (d :: ds, tail)
    | none => none
  | ['_'] => none
  | c :: rest =>
    match decimalDigit? c with
    | some d => (digitRun? rest).map fun (ds, tail) => (d :: ds, tail)
    | none => some ([], c :: rest)
  | [] => some ([], [])

def ofDigits (ds : List Nat) : Nat := ds.foldl (fun n d => 10 * n + d) 0

def maxDigits : Nat := 4300

def readInteger (text : String) : Except IntegerError Int :=
  let (negative, cs) := match text.toList.dropWhile isBlank with
    | '-' :: rest => (true, rest)
    | '+' :: rest => (false, rest)
    | cs => (false, cs)
  match cs with
  | '_' :: _ => .error (.malformed text)
  | cs =>
    match digitRun? cs with
    | none | some ([], _) => .error (.malformed text)
    | some (ds, tail) =>
      if maxDigits < ds.length then .error (.tooLong ds.length)
      else if tail.all isBlank then
        .ok (if negative then -(ofDigits ds : Int) else ofDigits ds)
      else .error (.malformed text)

end TerrainTiles.Text
