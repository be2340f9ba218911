import TerrainTiles.Environment
import TerrainTiles.Fault

/-!
# Tile sources

The shipped sources: what they cover, how their grid is laid out and named, and
where their archives are fetched from. Variables of the environment override the
remote places.
-/

namespace TerrainTiles

inductive Naming where
  /-- Columns from the west and rows from the north, counted from one. -/
  | columnRow
  /-- The south-west corner in whole degrees. -/
  | corner
  deriving DecidableEq, Repr

/-- Where archives come from, with the variables that override it. -/
inductive Remote where
  | http (url urlVariable : String)
  | ftp (host hostVariable directory directoryVariable : String)
  deriving DecidableEq, Repr

structure Bounds where
  west : Int
  south : Int
  east : Int
  north : Int
  deriving DecidableEq, Repr

structure Source where
  id : String
  name : String
  resolution : Nat
  coverage : String
  bounds : Bounds
  degrees : Nat
  naming : Naming
  extension : String
  /-- Names an archive after the stem of the plain file. -/
  template : String
  remote : Remote
  license : String
  deriving DecidableEq, Repr

namespace Source

def srtm3 : Source where
  id := "srtm3"
  name := "CGIAR-CSI SRTM 90m v4.1"
  resolution := 90
  coverage := "60N-60S"
  bounds := { west := -180, south := -60, east := 180, north := 60 }
  degrees := 5
  naming := .columnRow
  extension := ".tif"
  template := "\x7bstem\x7d.zip"
  remote := .http "https://srtm.csi.cgiar.org/wp-content/uploads/files/srtm_5x5/TIFF/"
    "DEM_SRTM3_HTTP_URL"
  license := "CGIAR-CSI terms of use"

def srtm3Ftp : Source where
  id := "srtm3_ftp"
  name := "CGIAR-CSI SRTM 90m v4.1 (FTP)"
  resolution := 90
  coverage := "60N-60S"
  bounds := { west := -180, south := -60, east := 180, north := 60 }
  degrees := 5
  naming := .columnRow
  extension := ".tif"
  template := "\x7bstem\x7d.zip"
  remote := .ftp "srtm.csi.cgiar.org" "DEM_SRTM3_FTP_HOST"
    "/SRTM_V41/SRTM_Data_GeoTiff/" "DEM_SRTM3_FTP_PATH"
  license := "CGIAR-CSI terms of use"

def srtm1 : Source where
  id := "srtm1"
  name := "SRTM 1Sec HGT"
  resolution := 30
  coverage := "60N-56S"
  bounds := { west := -180, south := -56, east := 180, north := 60 }
  degrees := 1
  naming := .corner
  extension := ".hgt"
  template := "\x7bstem\x7d.SRTMGL1.hgt.zip"
  remote := .http "https://step.esa.int/auxdata/dem/SRTMGL1/" "DEM_SRTM1_HTTP_URL"
  license := "Public Domain"

def all : List Source := [srtm3, srtm3Ftp, srtm1]

theorem map_id_all : all.map id = sourceNames := rfl

def find (name : String) : Except Fault Source :=
  match all.find? (·.id = name) with
  | some source => .ok source
  | none => .error (.unknownSource name)

def protocol (source : Source) : String :=
  match source.remote with
  | .http .. => "http"
  | .ftp .. => "ftp"

/-- The remote place with the environment's overrides. -/
def remoteIn (source : Source) (environment : Environment) : Remote :=
  let choose (standard name : String) : String := (environment.nonempty? name).getD standard
  match source.remote with
  | .http url name => .http (choose url name) name
  | .ftp host hostName directory directoryName =>
    .ftp (choose host hostName) hostName (choose directory directoryName) directoryName

def location (source : Source) (environment : Environment) : String :=
  match source.remoteIn environment with
  | .http url _ => url
  | .ftp host _ directory _ => s!"ftp://{host}{directory}"

theorem find_eq_ok {name : String} {source : Source} (h : find name = .ok source) :
    source ∈ all ∧ source.id = name := by
  unfold find at h
  split at h
  · next found hf =>
    cases h
    exact ⟨List.mem_of_find?_eq_some hf, by simpa using List.find?_some hf⟩
  · simp at h

end Source

end TerrainTiles
