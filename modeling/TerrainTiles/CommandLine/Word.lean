import TerrainTiles.Text.DecimalDigit
import TerrainTiles.Text.Quoted
import TerrainTiles.Text.Split

/-!
# Words of a command line

Each word is read on its own, before any of them takes effect. A switch may be
spelled in full or as the start of one long name, with its value after an equals
sign. After two dashes alone, every word is plain.
-/

namespace TerrainTiles.CommandLine

inductive Switch where
  | help
  | host
  | port
  deriving DecidableEq, Repr

/-- Every spelling of every switch. -/
def spellings : List (String × Switch) :=
  [("-h", .help), ("--help", .help), ("--host", .host), ("--port", .port)]

def Switch.name (switch : Switch) : String :=
  "/".intercalate ((spellings.filter (·.2 = switch)).map (·.1))

inductive Word where
  | plain (text : String)
  | divider
  | switch (switch : Switch) (value : Option String)
  /-- What follows the short switch for help in one word, less an equals sign. -/
  | cluster (tail : List Char)
  | unknown (text : String)
  deriving DecidableEq, Repr

inductive Misuse where
  | ambiguous (word : String) (spellings : List String)
  | missingValue (switch : Switch)
  | unusedValue (switch : Switch) (value : String)
  | notInteger (switch : Switch) (value : String)
  | notMode (text : String)
  | unrecognized (words : List String)
  deriving DecidableEq, Repr

namespace Misuse

def message : Misuse → String
  | ambiguous word spellings =>
    let names := ", ".intercalate spellings
    s!"ambiguous option: {word} could match {names}"
  | missingValue switch => s!"argument {switch.name}: expected one argument"
  | unusedValue switch value =>
    s!"argument {switch.name}: ignored explicit argument {Text.quoted value}"
  | notInteger switch value => s!"argument {switch.name}: invalid int value: {Text.quoted value}"
  | notMode text =>
    s!"argument mode: invalid choice: {Text.quoted text} (choose from 'stdio', 'http')"
  | unrecognized words =>
    let all := " ".intercalate words
    s!"unrecognized arguments: {all}"

end Misuse

-- ---------------------------------------------------------------------------
-- Reading
-- ---------------------------------------------------------------------------

/-- A name and the value after the first equals sign, if there is one. -/
def cutValue (cs : List Char) : List Char × Option (List Char) :=
  match Text.splitFirst? '=' cs with
  | some (name, value) => (name, some value)
  | none => (cs, none)

/-- Digits, or a point with digits after it; a line end may follow. -/
def isUnsigned (cs : List Char) : Bool :=
  let isDigit (c : Char) : Bool := (Text.decimalDigit? c).isSome
  let whole := if cs.getLast? = some '\n' then cs.dropLast else cs
  match whole.dropWhile isDigit with
  | [] => !whole.isEmpty
  | '.' :: fraction => !fraction.isEmpty && fraction.all isDigit
  | _ => false

/-- A word that starts with a dash but spells no switch is plain if it is a
negative number or has a space. -/
def readLoose (cs : List Char) : Word :=
  if isUnsigned (cs.drop 1) || cs.contains ' ' then .plain (String.ofList cs)
  else .unknown (String.ofList cs)

def readLong (cs : List Char) : Except Misuse Word :=
  let (name, value) := cutValue cs
  match spellings.lookup (String.ofList name) with
  | some switch => .ok (.switch switch (value.map String.ofList))
  | none =>
    match spellings.filter fun entry => name.isPrefixOf entry.1.toList with
    | [] => .ok (readLoose cs)
    | [(_, switch)] => .ok (.switch switch (value.map String.ofList))
    | several => .error (.ambiguous (String.ofList cs) (several.map (·.1)))

/-- A word of two or more characters that starts with a dash. -/
def readDashed (cs : List Char) : Except Misuse Word :=
  match cs with
  | '-' :: '-' :: _ => readLong cs
  | ['-', 'h'] => .ok (.switch .help none)
  | '-' :: 'h' :: '=' :: tail | '-' :: 'h' :: tail => .ok (.cluster tail)
  | _ => .ok (readLoose cs)

def readWord (text : String) : Except Misuse Word :=
  match text.toList with
  | '-' :: c :: rest => readDashed ('-' :: c :: rest)
  | _ => .ok (.plain text)

def readWords : List String → Except Misuse (List Word)
  | [] => .ok []
  | text :: rest =>
    if text = "--" then .ok (.divider :: rest.map .plain)
    else do
      let word ← readWord text
      return word :: (← readWords rest)

-- ---------------------------------------------------------------------------
-- Small laws
-- ---------------------------------------------------------------------------

/-- Every word is read as one. -/
theorem length_readWords {words : List String} {read : List Word}
    (h : readWords words = .ok read) : read.length = words.length := by
  induction words generalizing read with
  | nil => cases h; rfl
  | cons text rest ih =>
    unfold readWords at h
    split at h
    · cases h; simp
    · cases hw : readWord text with
      | error => rw [hw] at h; cases h
      | ok word =>
        cases hr : readWords rest with
        | error => rw [hw, hr] at h; cases h
        | ok others =>
          rw [hw, hr] at h
          cases h
          simp [ih hr]

end TerrainTiles.CommandLine
