import TerrainTiles.CommandLine.Startup

/-!
# The command

Makes the cache directory, reads the command line and announces the transport
that is to be opened.
-/

namespace TerrainTiles

open CommandLine

def programName : String := "server"

def startEnvironment : IO Environment := do
  let mut environment := []
  for name in ["HOME", "DEM_TILE_CACHE_DIR", "MCP_STDIO"] do
    if let some value ← IO.getEnv name then
      environment := (name, value) :: environment
  return environment

end TerrainTiles

open TerrainTiles TerrainTiles.CommandLine in
def main (words : List String) : IO UInt32 := do
  let environment ← startEnvironment
  try IO.FS.createDirAll (cacheDirectory environment).text
  catch _ => pure ()
  let startup := Startup.ofWords environment (← (← IO.getStdin).isTty) words
  match startup with
  | .help => IO.println (helpText programName)
  | .refuse _ =>
    IO.eprintln (usage programName)
    IO.eprintln (startup.notice programName)
  | .serve _ _ => IO.eprintln (startup.notice programName)
  return (startup.exitCode?.getD 0).toUInt32
