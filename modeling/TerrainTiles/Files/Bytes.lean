/-!
# Bytes

File contents and transferred data are lists of bytes.
-/

namespace TerrainTiles

abbrev Bytes := List UInt8

namespace Bytes

def ofText (text : String) : Bytes := text.toUTF8.toList

/-- A little-endian number; the first byte is the least significant. -/
def littleEndian : Bytes → Nat
  | [] => 0
  | b :: rest => b.toNat + 256 * littleEndian rest

/-- `width` bytes of a number, least significant first. -/
def ofNat : (width : Nat) → Nat → Bytes
  | 0, _ => []
  | width + 1, n => UInt8.ofNat n :: ofNat width (n / 256)

/-- `count` bytes from `start` on, if there are so many. -/
def slice? (data : Bytes) (start count : Nat) : Option Bytes :=
  let part := (data.drop start).take count
  if part.length = count then some part else none

def occurrences (pattern : Bytes) : (data : Bytes) → (position : Nat) → List Nat
  | [], _ => []
  | b :: rest, position =>
    let later := occurrences pattern rest (position + 1)
    if pattern.isPrefixOf (b :: rest) then position :: later else later

end Bytes

end TerrainTiles
