import TerrainTiles.Text.Template.Format

/-!
# Templates

A template is text with replacement fields in braces; a doubled brace stands for
itself. A field names a value, may select one character of it by an index, may
quote it, and may set it by a format, which can hold fields of its own.

Templates are read from the left, and what is wrong further right is not noticed
when filling a field fails first. `pieces` therefore yields the parts in order,
with an error as the last part where reading stops.
-/

namespace TerrainTiles.Text

/-- A replacement field: `{name!conversion:format}`. -/
structure Field where
  name : List Char
  conversion : Option Char := none
  format : List Char := []
  deriving DecidableEq, Repr

inductive Piece where
  | char (c : Char)
  | field (field : Field)
  deriving DecidableEq, Repr

/-- Where reading stands between two characters. -/
inductive TemplateState where
  | text
  | opened
  | closed
  | name (bracketed : Bool) (read : List Char)
  | conversion (name : List Char)
  | converted (name : List Char) (c : Char)
  | format (name : List Char) (conversion : Option Char) (depth : Nat) (read : List Char)

namespace TemplateState

/-- What is missing where the template ends. -/
def unfinished : TemplateState → Option TemplateError
  | text => none
  | opened => some .loneOpening
  | closed => some .loneClosing
  | name .. => some .unclosedField
  | conversion _ => some .missingConversion
  | converted .. | format .. => some .unclosedFormat

/-- One character of a field's name; an index in brackets may hold anything. -/
def nameStep (bracketed : Bool) (read : List Char) (c : Char) :
    Except TemplateError (Option Piece × TemplateState) :=
  if bracketed then .ok (none, name (c ≠ ']') (c :: read))
  else match c with
    | '{' => .error .openingInName
    | '}' => .ok (some (.field { name := read.reverse }), text)
    | ':' => .ok (none, format read.reverse none 0 [])
    | '!' => .ok (none, conversion read.reverse)
    | c => .ok (none, name (c = '[') (c :: read))

def step : TemplateState → Char → Except TemplateError (Option Piece × TemplateState)
  | text, '{' => .ok (none, opened)
  | text, '}' => .ok (none, closed)
  | text, c => .ok (some (.char c), text)
  | opened, '{' => .ok (some (.char '{'), text)
  | opened, c => nameStep false [] c
  | closed, '}' => .ok (some (.char '}'), text)
  | closed, _ => .error .loneClosing
  | name bracketed read, c => nameStep bracketed read c
  | conversion field, c => .ok (none, converted field c)
  | converted field c, '}' => .ok (some (.field { name := field, conversion := some c }), text)
  | converted field c, ':' => .ok (none, format field (some c) 0 [])
  | converted .., _ => .error .junkAfterConversion
  | format field shown 0 read, '}' =>
    .ok (some (.field { name := field, conversion := shown, format := read.reverse }), text)
  | format field shown (depth + 1) read, '}' => .ok (none, format field shown depth ('}' :: read))
  | format field shown depth read, '{' => .ok (none, format field shown (depth + 1) ('{' :: read))
  | format field shown depth read, c => .ok (none, format field shown depth (c :: read))

end TemplateState

/-- The parts of a template in order, up to the first error in its form. -/
def pieces (state : TemplateState) : List Char → List (Except TemplateError Piece)
  | [] => (state.unfinished.map Except.error).toList
  | c :: rest =>
    match state.step c with
    | .error e => [.error e]
    | .ok (none, next) => pieces next rest
    | .ok (some piece, next) => .ok piece :: pieces next rest

/-- A whole number of decimal digits; `none` for any other text. -/
def position? (cs : List Char) : Except TemplateError (Option Nat) := do
  match ← leadingCount cs with
  | (n, []) => return n
  | _ => return none

/-- The value of a field's name before its first `.` or `[`. -/
def lookup (values : List (String × String)) (name : List Char) :
    Except TemplateError String := do
  if name.isEmpty then throw (.positionalField 0)
  if let some index ← position? name then throw (.positionalField index)
  match values.lookup (String.ofList name) with
  | some value => return value
  | none => throw (.unknownField (String.ofList name))

/-- Selects characters by the indices that follow a name; text has no attributes. -/
def select (value : List Char) : Nat → List Char → Except TemplateError (List Char)
  | 0, _ | _, [] => .ok value
  | fuel + 1, '[' :: rest => do
    let index := rest.takeWhile (· ≠ ']')
    match rest.drop index.length with
    | [] => throw .unclosedIndex
    | _ :: rest =>
      let position ← position? index
      if index.isEmpty then throw .emptyAccess
      match position with
      | none => throw .indexNotNumeric
      | some i => match value[i]? with
        | none => throw .indexOutOfRange
        | some c => select [c] fuel rest
  | _, '.' :: rest =>
    let member := rest.takeWhile fun c => c ≠ '.' && c ≠ '['
    .error (if member.isEmpty then .emptyAccess else .noAttribute (String.ofList member))
  | _, _ => .error .junkAfterIndex

/-- `s` is the text itself, `r` and `a` quote it. -/
def convert (text : List Char) : Option Char → Except TemplateError (List Char)
  | none | some 's' => .ok text
  | some 'r' => .ok (quoted (String.ofList text)).toList
  | some 'a' => .ok (quotedAscii (String.ofList text)).toList
  | some c => .error (.unknownConversion c)

def Field.value (field : Field) (values : List (String × String)) :
    Except TemplateError (List Char) := do
  let plain (c : Char) : Bool := c ≠ '.' && c ≠ '['
  let value ← lookup values (field.name.takeWhile plain)
  let accesses := field.name.dropWhile plain
  let selected ← select value.toList accesses.length accesses
  convert selected field.conversion

/-- Fills the fields of a template; `depth` bounds how deep formats nest. -/
def fillFields (values : List (String × String)) :
    Nat → List Char → Except TemplateError (List Char)
  | 0, _ => .error .nestedTooDeep
  | depth + 1, template => do
    let parts ← (pieces .text template).mapM fun piece => do
      match ← piece with
      | .char c => return [c]
      | .field field =>
        let value ← field.value values
        let format ←
          if '{' ∈ field.format then fillFields values depth field.format else .ok field.format
        formatText format value
    return parts.flatten

/-- Fills a template's fields with the named values. A format may hold fields,
but not fields with such formats. -/
def fillTemplate (values : List (String × String)) (template : String) :
    Except TemplateError String :=
  (fillFields values 2 template.toList).map String.ofList

end TerrainTiles.Text
