import TerrainTiles.Text.Printable

/-!
# Quoted text

Text in messages stands between single quotes, or between double quotes if it
holds a single quote and no double one. Inside, the backslash and the quote in
use are escaped, three control characters have escapes of one letter, and every
other unprintable character is written by its code point.
-/

namespace TerrainTiles.Text

/-- `n` in lowercase hexadecimal with at least `width` digits. -/
def hexadecimal (width n : Nat) : List Char :=
  let digits := Nat.toDigits 16 n
  List.replicate (width - digits.length) '0' ++ digits

/-- A code point as an escape, in the shortest of the three widths. -/
def escapeCode (n : Nat) : List Char :=
  if n ≤ 0xff then '\\' :: 'x' :: hexadecimal 2 n
  else if n ≤ 0xffff then '\\' :: 'u' :: hexadecimal 4 n
  else '\\' :: 'U' :: hexadecimal 8 n

def quotedChar (shown : Char → Bool) (quote c : Char) : List Char :=
  if c = quote ∨ c = '\\' then ['\\', c]
  else if c = '\t' then ['\\', 't']
  else if c = '\n' then ['\\', 'n']
  else if c = '\r' then ['\\', 'r']
  else if shown c then [c]
  else escapeCode c.toNat

def chooseQuote (cs : List Char) : Char :=
  if '\'' ∈ cs ∧ '"' ∉ cs then '"' else '\''

def quotedWith (shown : Char → Bool) (text : String) : String :=
  let cs := text.toList
  let quote := chooseQuote cs
  String.ofList (quote :: cs.flatMap (quotedChar shown quote) ++ [quote])

/-- Printable characters are kept. -/
def quoted (text : String) : String := quotedWith isPrintable text

/-- Only ASCII is kept. -/
def quotedAscii (text : String) : String :=
  quotedWith (fun c => isPrintable c && c.toNat < 0x7f) text

end TerrainTiles.Text
