import TerrainTiles.Archive.Unpacking

/-!
# Reading archives

`Archive.ofBytes` reads the directory and makes an entry of each of its records.
Offsets are taken relative to where the directory is found, so that bytes in
front of the archive do no harm. An entry must end before the next one starts.
-/

namespace TerrainTiles.Archive

/-- What is thrown where a file is looked at before its start. -/
def beforeStart : Fault :=
  .reported { kind := .os, details := [.number 22, .text "Invalid argument"] }

def encrypted (name : String) : Fault :=
  .reported {
    kind := .runtime
    details := [.text s!"File {Text.quoted name} is encrypted, password required for extraction"] }

/-- The payload of the entry that starts at a place and must end before a bound. -/
def payload (data : Bytes) (unpacker : Unpacker) (header : Header) (place bound : Int) :
    Except Fault Bytes := do
  failIf (place < 0) beforeStart
  let start := place.toNat
  let some fixed := data.slice? start headerSize | throw (.badZip "Truncated file header")
  failIf (!headerMark.isPrefixOf fixed) (.badZip "Bad magic number for file header")
  let nameSize := number fixed 26 2
  let rawName := (data.drop (start + headerSize)).take nameSize
  failIf (header.flags.testBit 5) (.unsupported "compressed patched data (flag bit 5)")
  failIf (header.flags.testBit 6) (.unsupported "strong encryption (flag bit 6)")
  let name ← decodeName (number fixed 6 2) rawName
  failIf (name ≠ header.name) (.badZip (s!"File name in directory {Text.quoted header.name} and " ++
    s!"header {shownBytes rawName} differ."))
  let begin := min (start + headerSize + nameSize + number fixed 28 2) data.length
  failIf (bound < begin + header.packedSize)
    (.badZip s!"Overlapped entries: {Text.quoted header.name} (possible zip bomb)")
  failIf (header.flags.testBit 0) (encrypted (visibleName header.name))
  unpacker.content header ((data.drop begin).take header.packedSize)

/-- An entry must end where the next one starts, the last one where the directory does.
Of entries at the same place only the first has room. -/
def bound (places earlier : List Int) (directory place : Int) : Int :=
  if place ∈ earlier then place
  else ((places.filter (place < ·)).min?).getD directory

/-- The entries of the directory's records, with their places. -/
def entriesOf (data : Bytes) (unpacker : Unpacker) (places : List Int) (directory : Int) :
    (earlier : List Int) → List (Header × Int) → List Entry
  | _, [] => []
  | earlier, (header, place) :: rest =>
    { name := visibleName header.name
      payload := payload data unpacker header place (bound places earlier directory place) } ::
    entriesOf data unpacker places directory (place :: earlier) rest

def ofBytes (data : Bytes) (unpacker : Unpacker := .plain) : Except Fault Archive := do
  let some (position, record) := endRecord? data | throw .notZip
  let extent ← extent data position record
  let directory : Int := (position : Int) - extent.size - extent.gap
  failIf (directory < 0) (.badZip "Bad offset for central directory")
  let found ← headers extent.size extent.size ((data.drop directory.toNat).take extent.size)
  let located := found.map fun header => (header, header.offset + (directory - extent.offset))
  return { entries := entriesOf data unpacker (located.map Prod.snd) directory [] located }

end TerrainTiles.Archive
