import TerrainTiles.Archive.Checksum
import TerrainTiles.Archive.Directory

/-!
# Writing archives

An archive is written as each entry's header and content, then the directory, then
the end record. A name is text, written as UTF-8, or bytes of the code page. The
content of an entry is as its method packs it; `size` and `crc` are what is written
of it unpacked, so an entry can be damaged.
-/

namespace TerrainTiles.Archive

inductive StoredName where
  | text (name : String)
  | codePage (bytes : Bytes)

namespace StoredName

instance : Coe String StoredName := ⟨text⟩

/-- Text is written up to its first null character. -/
def bytes : StoredName → Bytes
  | text name => Bytes.ofText (visibleName name)
  | codePage bytes => bytes

/-- Text beyond ASCII is flagged as UTF-8. -/
def flags : StoredName → Nat
  | text name => if (Bytes.ofText (visibleName name)).all (· < 0x80) then 0 else 0x800
  | codePage _ => 0

def decoded : StoredName → String
  | text name => visibleName name
  | codePage bytes => String.ofList (bytes.map codePageChar)

end StoredName

structure Stored where
  name : StoredName
  content : Bytes
  crc : UInt32 := checksum content
  method : Nat := 0
  size : Nat := content.length

namespace Stored

def attributes (entry : Stored) : Bytes :=
  [20, 0] ++ Bytes.ofNat 2 entry.name.flags ++ Bytes.ofNat 2 entry.method ++ [0, 0, 0x21, 0] ++
    Bytes.ofNat 4 entry.crc.toNat ++ Bytes.ofNat 4 entry.content.length ++
    Bytes.ofNat 4 entry.size ++ Bytes.ofNat 2 entry.name.bytes.length ++ [0, 0]

def record (entry : Stored) : Bytes :=
  headerMark ++ entry.attributes ++ entry.name.bytes ++ entry.content

def directoryRecord (entry : Stored) (offset : Nat) : Bytes :=
  directoryMark ++ [20, 3] ++ entry.attributes ++ [0, 0, 0, 0, 0, 0, 0, 0, 0x80, 1] ++
    Bytes.ofNat 4 offset ++ entry.name.bytes

end Stored

/-- The directory of entries that are written from an offset on. -/
def directory : (offset : Nat) → List Stored → Bytes
  | _, [] => []
  | offset, entry :: rest =>
    entry.directoryRecord offset ++ directory (offset + entry.record.length) rest

def write (entries : List Stored) : Bytes :=
  let body := entries.flatMap Stored.record
  let directory := directory 0 entries
  body ++ directory ++ endMark ++ [0, 0, 0, 0] ++ Bytes.ofNat 2 entries.length ++
    Bytes.ofNat 2 entries.length ++ Bytes.ofNat 4 directory.length ++
    Bytes.ofNat 4 body.length ++ [0, 0]

end TerrainTiles.Archive
