import TerrainTiles.Files.Bytes

/-!
# CRC-32

The cyclic redundancy check of archives: the reflected polynomial `EDB88320`,
started with and complemented by all ones.
-/

namespace TerrainTiles.Archive

def checksumBit (crc : UInt32) : UInt32 :=
  if crc &&& 1 = 1 then (crc >>> 1) ^^^ 0xEDB88320 else crc >>> 1

def checksumByte (crc : UInt32) (byte : UInt8) : UInt32 :=
  checksumBit <| checksumBit <| checksumBit <| checksumBit <|
    checksumBit <| checksumBit <| checksumBit <| checksumBit <| crc ^^^ byte.toUInt32

def checksum (data : Bytes) : UInt32 := data.foldl checksumByte 0xFFFFFFFF ^^^ 0xFFFFFFFF

end TerrainTiles.Archive
