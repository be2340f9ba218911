import TerrainTiles.Decimal.Literal
import TerrainTiles.Json.Basic

/-!
# Reading JSON

`Json.parse` reads one value with blanks around it. A number without point and
exponent is an integer; any other is rounded to the nearest double. `NaN` and
`Infinity`, the latter with or without a minus sign, are reals as well. A
surrogate without its partner becomes the replacement character. Fuel is the
length of the text: every value takes at least one character.
-/

namespace TerrainTiles.Json

def isSpace (c : Char) : Bool := c = ' ' || c = '\t' || c = '\n' || c = '\r'

def skipSpace (cs : List Char) : List Char := cs.dropWhile isSpace

def hexDigit? (c : Char) : Option Nat :=
  let n := c.toLower.toNat
  if c.isDigit then some (n - 0x30)
  else if 0x61 ≤ n ∧ n ≤ 0x66 then some (n - 0x57)
  else none

def codeUnit? : List Char → Option (Nat × List Char)
  | a :: b :: c :: d :: rest => do
    let digits ← [a, b, c, d].mapM hexDigit?
    some (digits.foldl (fun n digit => 16 * n + digit) 0, rest)
  | _ => none

def isHighSurrogate (unit : Nat) : Bool := 0xd800 ≤ unit && unit < 0xdc00

def isLowSurrogate (unit : Nat) : Bool := 0xdc00 ≤ unit && unit < 0xe000

/-- The character that an escaped code unit starts, and the rest. -/
def escapedUnit? (cs : List Char) : Option (Char × List Char) := do
  let (unit, rest) ← codeUnit? cs
  if isHighSurrogate unit then
    match rest with
    | '\\' :: 'u' :: more =>
      let (low, after) ← codeUnit? more
      if isLowSurrogate low then
        some (Char.ofNat (0x10000 + (unit - 0xd800) * 0x400 + (low - 0xdc00)), after)
      else some ('\ufffd', rest)
    | _ => some ('\ufffd', rest)
  else if isLowSurrogate unit then some ('\ufffd', rest)
  else some (Char.ofNat unit, rest)

def unescape? : Char → Option Char
  | '"' => some '"'
  | '\\' => some '\\'
  | '/' => some '/'
  | 'b' => some '\x08'
  | 'f' => some '\x0c'
  | 'n' => some '\n'
  | 'r' => some '\r'
  | 't' => some '\t'
  | _ => none

/-- The rest of a string after its opening quote, in reverse order on `acc`. -/
def stringBody? : (fuel : Nat) → (acc : List Char) → List Char → Option (String × List Char)
  | 0, _, _ | _, _, [] => none
  | _ + 1, acc, '"' :: rest => some (String.ofList acc.reverse, rest)
  | fuel + 1, acc, '\\' :: 'u' :: rest => do
    let (c, rest) ← escapedUnit? rest
    stringBody? fuel (c :: acc) rest
  | fuel + 1, acc, '\\' :: c :: rest => do
    stringBody? fuel ((← unescape? c) :: acc) rest
  | fuel + 1, acc, c :: rest => stringBody? fuel (c :: acc) rest

def isNumberChar (c : Char) : Bool :=
  c.isDigit || c = '+' || c = '-' || c = '.' || c = 'e' || c = 'E'

def number? (cs : List Char) : Option Json :=
  let (negative, digits) := Literal.splitSign cs
  if digits ≠ [] ∧ digits.all Char.isDigit then
    let n := Literal.digitsValue digits
    some (.integer (if negative then -(n : Int) else n))
  else (Literal.parse? (String.ofList cs)).map fun literal => .real (literal.toBinary _)

def word? (word : List Char) (value : Json) (cs : List Char) : Option (Json × List Char) :=
  if word.isPrefixOf cs then some (value, cs.drop word.length) else none

def infinityTail : List Char := ['n', 'f', 'i', 'n', 'i', 't', 'y']

mutual

def value? : (fuel : Nat) → List Char → Option (Json × List Char)
  | 0, _ => none
  | fuel + 1, cs =>
    match skipSpace cs with
    | '{' :: rest => match skipSpace rest with
      | '}' :: rest => some (.object [], rest)
      | rest => members? fuel [] rest
    | '[' :: rest => match skipSpace rest with
      | ']' :: rest => some (.array [], rest)
      | rest => items? fuel [] rest
    | '"' :: rest => (stringBody? (fuel + 1) [] rest).map fun (s, rest) => (.string s, rest)
    | 't' :: rest => word? ['r', 'u', 'e'] (.bool true) rest
    | 'f' :: rest => word? ['a', 'l', 's', 'e'] (.bool false) rest
    | 'n' :: rest => word? ['u', 'l', 'l'] .null rest
    | 'N' :: rest => word? ['a', 'N'] (.real .nan) rest
    | 'I' :: rest => word? infinityTail (.real (.infinite false)) rest
    | '-' :: 'I' :: rest => word? infinityTail (.real (.infinite true)) rest
    | cs => (number? (cs.takeWhile isNumberChar)).map (·, cs.dropWhile isNumberChar)

def items? : (fuel : Nat) → (acc : List Json) → List Char → Option (Json × List Char)
  | 0, _, _ => none
  | fuel + 1, acc, cs => do
    let (item, rest) ← value? fuel cs
    match skipSpace rest with
    | ',' :: rest => items? fuel (item :: acc) rest
    | ']' :: rest => some (.array (item :: acc).reverse, rest)
    | _ => none

def members? : (fuel : Nat) → (acc : List (String × Json)) → List Char →
    Option (Json × List Char)
  | 0, _, _ => none
  | fuel + 1, acc, cs =>
    match skipSpace cs with
    | '"' :: rest => do
      let (key, rest) ← stringBody? (fuel + 1) [] rest
      let ':' :: rest := skipSpace rest | none
      let (item, rest) ← value? fuel rest
      match skipSpace rest with
      | ',' :: rest => members? fuel ((key, item) :: acc) rest
      | '}' :: rest => some (.object ((key, item) :: acc).reverse, rest)
      | _ => none
    | _ => none

end

def parse (text : String) : Option Json :=
  let cs := text.toList
  match value? (cs.length + 1) cs with
  | some (value, rest) => if (skipSpace rest).isEmpty then some value else none
  | none => none

-- ---------------------------------------------------------------------------
-- Looking into values
-- ---------------------------------------------------------------------------

/-- The last member of a name. -/
def get? (value : Json) (name : String) : Option Json :=
  match value with
  | object members => members.reverse.lookup name
  | _ => none

/-- The member of a name, null if there is none. -/
def get (value : Json) (name : String) : Json := (value.get? name).getD .null

def items : Json → List Json
  | array items => items
  | _ => []

def members : Json → List (String × Json)
  | object members => members
  | _ => []

def string? : Json → Option String
  | string s => some s
  | _ => none

def integer? : Json → Option Int
  | integer n => some n
  | _ => none

def isTrue : Json → Bool
  | bool b => b
  | _ => false

end TerrainTiles.Json
