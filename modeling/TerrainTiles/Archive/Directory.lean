import TerrainTiles.Archive.Name

/-!
# The directory of an archive

The end record is looked for from the end, with room for a comment. It says how
long the directory is that stands before it; a longer record in front of it says
so for large archives. Each record of the directory says where its entry starts,
how it is packed, and its check. Sizes and offsets that do not fit a record stand
in one of its extra fields.
-/

namespace TerrainTiles.Archive

/-- The little-endian number of `width` bytes at an offset of a record. -/
def number (record : Bytes) (offset width : Nat) : Nat :=
  Bytes.littleEndian ((record.drop offset).take width)

def endMark : Bytes := [0x50, 0x4b, 5, 6]
def wideEndMark : Bytes := [0x50, 0x4b, 6, 6]
def locatorMark : Bytes := [0x50, 0x4b, 6, 7]
def directoryMark : Bytes := [0x50, 0x4b, 1, 2]
def headerMark : Bytes := [0x50, 0x4b, 3, 4]

def endRecordSize : Nat := 22
def wideEndRecordSize : Nat := 56
def locatorSize : Nat := 20
def directoryRecordSize : Nat := 46
def headerSize : Nat := 30

-- ---------------------------------------------------------------------------
-- The end record
-- ---------------------------------------------------------------------------

/-- The position and the bytes of the end record: the last bytes of the data, or
the last record that starts where a comment could follow it. -/
def endRecord? (data : Bytes) : Option (Nat × Bytes) :=
  let size := data.length
  if size < endRecordSize then none
  else
    let last := data.drop (size - endRecordSize)
    if endMark.isPrefixOf last && number last 20 2 = 0 then some (size - endRecordSize, last)
    else do
      let start := size - endRecordSize - 0x10000
      let position ← (Bytes.occurrences endMark (data.drop start) start).getLast?
      let record ← data.slice? position endRecordSize
      return (position, record)

/-- Where the directory is said to be. -/
structure Extent where
  size : Nat
  offset : Nat
  /-- The records that stand between the directory and the end record. -/
  gap : Nat := 0

/-- What the end record says, or the long record in front of it if that is located. -/
def extent (data : Bytes) (position : Nat) (record : Bytes) : Except Fault Extent :=
  let said : Extent := { size := number record 12 4, offset := number record 16 4 }
  let locator := (data.drop (position - locatorSize)).take locatorSize
  if position < locatorSize ∨ !locatorMark.isPrefixOf locator then .ok said
  else if number locator 4 4 ≠ 0 ∨ 1 < number locator 16 4 then
    .error (.badZip "zipfiles that span multiple disks are not supported")
  else
    let gap := wideEndRecordSize + locatorSize
    if position < gap then .error .notZip
    else
      let wide := (data.drop (position - gap)).take wideEndRecordSize
      if !wideEndMark.isPrefixOf wide then .ok said
      else .ok { size := number wide 40 8, offset := number wide 48 8, gap }

-- ---------------------------------------------------------------------------
-- Records
-- ---------------------------------------------------------------------------

/-- What the directory says of an entry. -/
structure Header where
  name : String
  flags : Nat
  method : Nat
  crc : UInt32
  packedSize : Nat
  size : Nat
  /-- Where the entry starts, before the directory's shift is added. -/
  offset : Nat

/-- A number that does not fit its field is the next of the wide ones. -/
def takeWide (field : String) (wide : Bool) (value : Nat) (data : Bytes) :
    Except Fault (Nat × Bytes) :=
  if !wide then .ok (value, data)
  else if data.length < 8 then
    .error (.badZip s!"Corrupt zip64 extra field. {field} not found.")
  else .ok (number data 0 8, data.drop 8)

def Header.widen (header : Header) (data : Bytes) : Except Fault Header := do
  let narrow := 0xffffffff
  let (size, data) ← takeWide "File size"
    (header.size = narrow || header.size = 0xffffffffffffffff) header.size data
  let (packedSize, data) ← takeWide "Compress size" (header.packedSize = narrow)
    header.packedSize data
  let (offset, _) ← takeWide "Header offset" (header.offset = narrow) header.offset data
  return { header with size, packedSize, offset }

/-- Goes through the extra fields; the wide numbers are in those of type 1. -/
def Header.extended : (fuel : Nat) → (extra : Bytes) → Header → Except Fault Header
  | 0, _, header => .ok header
  | fuel + 1, extra, header =>
    if extra.length < 4 then .ok header
    else do
      let type := number extra 0 2
      let size := number extra 2 2
      let shown := String.ofList (Text.hexadecimal 4 type)
      failIf (extra.length < size + 4) (.badZip s!"Corrupt extra field {shown} (size={size})")
      let header ← if type = 1 then header.widen ((extra.drop 4).take size) else .ok header
      extended fuel (extra.drop (size + 4)) header

/-- The latest version of the format that is known, in tenths. -/
def latestVersion : Nat := 63

/-- What a record says, with the name and the extra fields that follow it. -/
def readHeader (record name extra : Bytes) : Except Fault Header := do
  let flags := number record 8 2
  let name ← decodeName flags name
  let version := number record 6 1
  failIf (latestVersion < version)
    (.unsupported s!"zip file version {version / 10}.{version % 10}")
  Header.extended extra.length extra {
    name, flags, method := number record 10 2
    crc := UInt32.ofNat (number record 16 4), packedSize := number record 20 4
    size := number record 24 4, offset := number record 42 4 }

def headers : (fuel remaining : Nat) → Bytes → Except Fault (List Header)
  | 0, _, _ | _, 0, _ => .ok []
  | fuel + 1, remaining, data => do
    let some record := data.slice? 0 directoryRecordSize
      | throw (.badZip "Truncated central directory")
    failIf (!directoryMark.isPrefixOf record) (.badZip "Bad magic number for central directory")
    let nameSize := number record 28 2
    let extraSize := number record 30 2
    let size := directoryRecordSize + nameSize + extraSize + number record 32 2
    let rest := data.drop directoryRecordSize
    let header ← readHeader record (rest.take nameSize) ((rest.drop nameSize).take extraSize)
    let later ← headers fuel (remaining - size) (data.drop size)
    return header :: later

end TerrainTiles.Archive
