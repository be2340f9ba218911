import TerrainTiles.Text.CaseTable

/-!
# Lowercase text

Every character is replaced by its lowercase form. One form has two characters,
and one depends on the place: a capital sigma at the end of a word, after a
letter and before none, becomes a final sigma. Marks and modifiers are looked
through on both sides.
-/

namespace TerrainTiles.Text

def isCased (c : Char) : Bool :=
  if c.toNat < 0x80 then c.isAlpha else casedLetters.contains c

def isCaseIgnorable (c : Char) : Bool :=
  if c.toNat < 0x80 then [0x27, 0x2e, 0x3a, 0x5e, 0x60].contains c.toNat
  else caseIgnorable.contains c

def lowercaseChar (c : Char) : List Char :=
  let n := c.toNat
  if n < 0x80 then [c.toLower]
  else if c = 'İ' then ['i', '\u0307']
  else match lowercaseRuns.find? fun (first, last, step, _) =>
      first ≤ n && n ≤ last && (n - first) % step = 0 with
    | some (_, _, _, distance) => [Char.ofNat (n + distance).toNat]
    | none => [c]

/-- Whether the first character that is not looked through is a letter. -/
def startsCased (cs : List Char) : Bool :=
  match cs.dropWhile isCaseIgnorable with
  | c :: _ => isCased c
  | [] => false

/-- `afterLetter` tells whether the last character not looked through is a letter. -/
def lowercaseFrom (afterLetter : Bool) : List Char → List Char
  | [] => []
  | c :: rest =>
    if c = 'Σ' then
      (if afterLetter && !startsCased rest then 'ς' else 'σ') :: lowercaseFrom true rest
    else
      lowercaseChar c ++
        lowercaseFrom (if isCaseIgnorable c then afterLetter else isCased c) rest

def lowercase (text : String) : String := String.ofList (lowercaseFrom false text.toList)

end TerrainTiles.Text
