import TerrainTiles.Archive.Unpacking
import TerrainTiles.Raster.Decode

/-!
# Decoders

A decoder makes a tile out of a file's content and the tile's name, or finds no
product in it. The usual one reads rasters; how bytes are read as a raster is a
parameter, and so is how the entries of archives are unpacked. A scripted decoder
gives its answers in order, whatever the content.
-/

namespace TerrainTiles

/-- How local copies are read: the tile in a content, and packed entries of archives. -/
structure Reader where
  decode : Bytes → String → Except Fault (Option Tile)
  unpacker : Archive.Unpacker := .plain

instance : CoeFun Reader fun _ => Bytes → String → Except Fault (Option Tile) := ⟨Reader.decode⟩

inductive Decoder where
  | deterministic (reader : Reader)
  | scripted (answers : List (Except Fault (Option Tile)))
      (otherwise : Except Fault (Option Tile)) (unpacker : Archive.Unpacker := .plain)

namespace Decoder

def unpacker : Decoder → Archive.Unpacker
  | deterministic reader => reader.unpacker
  | scripted _ _ unpacker => unpacker

def ofRasters (read? : Bytes → Option Raster) (unpacker : Archive.Unpacker := .plain) : Decoder :=
  .deterministic {
    decode := fun data name => match read? data with
      | some raster => .ok (raster.decode name)
      | none => .error .unreadableRaster
    unpacker }

/-- The answer for some content, and the decoder that is left. A file that
cannot be read has no content. -/
def decode (decoder : Decoder) (data : Option Bytes) (name : String) :
    Except Fault (Option Tile) × Decoder :=
  match decoder with
  | deterministic reader =>
    match data with
    | some data => (reader data name, decoder)
    | none => (.error .unreadableRaster, decoder)
  | scripted [] otherwise _ => (named otherwise, decoder)
  | scripted (answer :: rest) otherwise unpacker => (named answer, scripted rest otherwise unpacker)
where
  named (answer : Except Fault (Option Tile)) : Except Fault (Option Tile) :=
    answer.map (·.map fun tile => { tile with name })

end Decoder

end TerrainTiles
