import TerrainTiles.Fault

/-!
# FTP servers

A server is given by its answers: a fault for each call that fails, the listing
of a directory in machine-readable and in plain form, the sizes of files, and
the transfers it can make. A transfer arrives in chunks and can break off; the
same file may arrive differently the next time.
-/

namespace TerrainTiles.Ftp

def permanent (reply : String) : Fault :=
  .reported { kind := .ftpPermanent, details := [.text reply] }

/-- The facts of a listed file by name. -/
abbrev Facts := List (String × String)

structure Transfer where
  chunks : List Bytes := []
  failure : Option Fault := none

/-- A machine-readable listing: entries, and what ends it early. -/
structure Catalogue where
  entries : List (String × Facts) := []
  failure : Option Fault := none

structure Server where
  connect : Option Fault := none
  login : Option Fault := none
  passive : Option Fault := none
  command : Option Fault := none
  quit : Option Fault := none
  close : Option Fault := none
  catalogue : Catalogue := { failure := some (permanent "500 MLSD not understood") }
  names : Except Fault (List String) := .ok []
  sizes : List (String × Except Fault (Option Int)) := []
  /-- The files it can send, by how many transfers it has begun before. -/
  files : Nat → List (String × Transfer) := fun _ => []

namespace Server

def size (server : Server) (path : String) : Except Fault (Option Int) :=
  (server.sizes.lookup path).getD (.error (permanent "550 Could not get file size."))

def transfer (server : Server) (begun : Nat) (path : String) : Transfer :=
  ((server.files begun).lookup path).getD { failure := some (permanent "550 No such file") }

end Server

end TerrainTiles.Ftp
