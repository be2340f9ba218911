import TerrainTiles.Archive.Checksum
import TerrainTiles.Archive.Directory

/-!
# Unpacking

Entries are stored as they are or packed by one of three methods. How packed
data is unpacked is a parameter: an `Unpacker` gives what the data stands for and
says whether it has come to its end, or fails. The content of an entry is cut at
its size and compared with its check.
-/

namespace TerrainTiles.Archive

inductive Method where
  | stored
  | deflated
  | bzip2
  | lzma
  deriving DecidableEq, Repr

def Method.ofNumber? (number : Nat) : Option Method :=
  if number = 0 then some stored
  else if number = 8 then some deflated
  else if number = 12 then some bzip2
  else if number = 14 then some lzma
  else none

structure Unpacked where
  content : Bytes
  /-- The packed data says that nothing follows. -/
  ended : Bool := false

/-- No fault of it says that a tile's entry is missing. -/
def Foreign {α : Type} (x : Except Fault α) : Prop :=
  ∀ fault, x = .error fault → fault.kind ≠ .malformedArchive

structure Unpacker where
  unpack : Method → Bytes → Except Fault Unpacked
  foreign : ∀ method data, Foreign (unpack method data)

/-- Reads stored entries only. -/
def Unpacker.plain : Unpacker where
  unpack _ _ := .error (.unsupported "")
  foreign := by
    rintro _ _ _ ⟨⟩
    decide

/-- Reads deflated data of a single block too, if that holds its bytes as they are. -/
def Unpacker.oneBlock : Unpacker where
  unpack
    | .deflated, 1 :: low :: high :: _ :: _ :: rest =>
      .ok { content := rest.take (Bytes.littleEndian [low, high]), ended := true }
    | _, _ => .error (.unsupported "")
  foreign := by
    intro method data fault h
    split at h
    · cases h
    · cases h
      decide

namespace Unpacker

/-- What is stored stands for itself. -/
def expand (unpacker : Unpacker) (method : Method) (data : Bytes) : Except Fault Unpacked :=
  if method = .stored then .ok { content := data } else unpacker.unpack method data

/-- The content of an entry out of its packed data, which is shorter than it should be
if the archive ends early. -/
def content (unpacker : Unpacker) (header : Header) (packed : Bytes) : Except Fault Bytes := do
  let some method := Method.ofNumber? header.method
    | throw (.unsupported "That compression method is not supported")
  let short := packed.length < header.packedSize
  failIf (packed = [] ∧ short) (.reported { kind := .endOfInput })
  let unpacked ← unpacker.expand method packed
  let content := unpacked.content.take header.size
  failIf (short ∧ !unpacked.ended ∧ content.length < header.size) (.reported { kind := .endOfInput })
  failIf (checksum content ≠ header.crc) (.badChecksum (visibleName header.name))
  return content

end Unpacker

end TerrainTiles.Archive
