import TerrainTiles.Json.Parse
import TerrainTiles.Main
import TerrainTiles.Response.Read
import TerrainTiles.Proofs.Archive.Choice
import TerrainTiles.Proofs.Descriptor.Balance
import TerrainTiles.Proofs.Descriptor.Disabled
import TerrainTiles.Proofs.Descriptor.Healing
import TerrainTiles.Proofs.Ftp.Holding
import TerrainTiles.Proofs.Ftp.Listings
import TerrainTiles.Proofs.Http.Exactness
import TerrainTiles.Proofs.Manager.Elevation
import TerrainTiles.Proofs.Manager.Footprint
import TerrainTiles.Proofs.Manager.Independence
import TerrainTiles.Proofs.Manager.Rejection
import TerrainTiles.Proofs.Manager.Release
import TerrainTiles.Proofs.Raster.Range
import TerrainTiles.Proofs.Source.Footprint
import TerrainTiles.Proofs.Source.Separation
