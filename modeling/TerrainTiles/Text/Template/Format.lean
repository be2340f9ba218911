import TerrainTiles.Text.DecimalDigit
import TerrainTiles.Text.Template.Error

/-!
# Field formats

A format says how a piece of text is set: fill and alignment, width, and the
greatest number of characters. The options for numbers are read, in their fixed
order, and then refused.
-/

namespace TerrainTiles.Text

inductive Alignment where
  | left
  | right
  | center
  | sign
  deriving DecidableEq, Repr

def Alignment.ofChar? : Char → Option Alignment
  | '<' => some .left
  | '>' => some .right
  | '^' => some .center
  | '=' => some .sign
  | _ => none

structure FieldFormat where
  fill : Char := ' '
  alignment : Alignment := .left
  sign : Option Char := none
  negativeZero : Bool := false
  alternate : Bool := false
  width : Nat := 0
  separator : Option Char := none
  precision : Option Nat := none
  type : Char := 's'
  deriving DecidableEq, Repr

/-- Numbers in a template are below this bound. -/
def countBound : Nat := 0x8000000000000000

/-- The number at the start, if there is one, and the rest. -/
def leadingCount (cs : List Char) : Except TemplateError (Option Nat × List Char) :=
  let digits := (cs.takeWhile fun c => (decimalDigit? c).isSome).filterMap decimalDigit?
  let n := digits.foldl (fun n d => 10 * n + d) 0
  if countBound ≤ n then .error .tooManyDigits
  else .ok (if digits.isEmpty then none else some n, cs.drop digits.length)

namespace FieldFormat

private def option (c : Char) : List Char → Bool × List Char
  | d :: rest => if d = c then (true, rest) else (false, d :: rest)
  | [] => (false, [])

private def readAlignment : List Char → Option Char × Option Alignment × List Char
  | c :: d :: rest =>
    match Alignment.ofChar? d with
    | some a => (some c, some a, rest)
    | none => match Alignment.ofChar? c with
      | some a => (none, some a, d :: rest)
      | none => (none, none, c :: d :: rest)
  | [c] => match Alignment.ofChar? c with
    | some a => (none, some a, [])
    | none => (none, none, [c])
  | [] => (none, none, [])

private def readSign : List Char → Option Char × List Char
  | c :: rest => if c = ' ' ∨ c = '+' ∨ c = '-' then (some c, rest) else (none, c :: rest)
  | [] => (none, [])

private def readSeparator (cs : List Char) : Except TemplateError (Option Char × List Char) :=
  let (comma, cs) := option ',' cs
  let (low, cs) := option '_' cs
  if comma ∧ low ∨ low ∧ (option ',' cs).1 then .error .bothSeparators
  else .ok (if comma then some ',' else if low then some '_' else none, cs)

private def readPrecision (cs : List Char) : Except TemplateError (Option Nat × List Char) :=
  match cs with
  | '.' :: rest => do
    match ← leadingCount rest with
    | (none, _) => .error .missingPrecision
    | found => .ok found
  | cs => .ok (none, cs)

/-- Whether a presentation type goes with a separator of thousands. -/
private def groups (mark type : Char) : Bool :=
  "defgEG%F".toList.contains type || (mark = '_' && "boxX".toList.contains type)

def parse (spec : List Char) : Except TemplateError FieldFormat := do
  let (fill, alignment, cs) := readAlignment spec
  let (sign, cs) := readSign cs
  let (negativeZero, cs) := option 'z' cs
  let (alternate, cs) := option '#' cs
  let (zeroFill, cs) := if fill.isNone then option '0' cs else (false, cs)
  let (width, cs) ← leadingCount cs
  let (separator, cs) ← readSeparator cs
  let (precision, cs) ← readPrecision cs
  let type ← match cs with
    | [] => .ok 's'
    | [c] => .ok c
    | _ => .error (.malformedFormat (String.ofList spec))
  if let some mark := separator then
    if !groups mark type then throw (.separator mark type)
  return {
    fill := fill.getD (if zeroFill then '0' else ' '), alignment := alignment.getD .left
    sign, negativeZero, alternate, width := width.getD 0, separator, precision, type }

def refused (format : FieldFormat) : Option TemplateError :=
  if format.type ≠ 's' then some (.unknownFormat format.type)
  else match format.sign with
    | some ' ' => some (.numericOption .space)
    | some _ => some (.numericOption .sign)
    | none =>
      if format.negativeZero then some (.numericOption .negativeZero)
      else if format.alternate then some (.numericOption .alternate)
      else if format.alignment = .sign then some (.numericOption .signAlignment)
      else none

def apply (format : FieldFormat) (text : List Char) : List Char :=
  let text := match format.precision with
    | some n => text.take n
    | none => text
  let missing := format.width - text.length
  let before := match format.alignment with
    | .right => missing
    | .center => missing / 2
    | .left | .sign => 0
  List.replicate before format.fill ++ text ++ List.replicate (missing - before) format.fill

end FieldFormat

/-- Sets text by a format given as text; an empty one leaves it alone. -/
def formatText (spec text : List Char) : Except TemplateError (List Char) := do
  if spec.isEmpty then return text
  let format ← FieldFormat.parse spec
  match format.refused with
  | some e => throw e
  | none => return format.apply text

end TerrainTiles.Text
