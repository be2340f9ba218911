import TerrainTiles.CommandLine.Options
import TerrainTiles.Manager.Basic

/-!
# Starting the server

The cache directory is made first, whatever the command line says; that it cannot
be made stops nothing. Without a mode the server speaks HTTP only at a terminal,
and only if the environment does not ask for standard input and output.
-/

namespace TerrainTiles.CommandLine

inductive Transport where
  | stdio
  | http (host : Option String) (port : Option Int)
  deriving DecidableEq, Repr

inductive Startup where
  /-- The transport to open, and whether it was chosen without a mode. -/
  | serve (transport : Transport) (detected : Bool)
  | help
  | refuse (misuse : Misuse)
  deriving DecidableEq, Repr

def cacheDirectory (environment : Environment) : Path :=
  Path.parse (environment.expandHome
    ((environment.get? "DEM_TILE_CACHE_DIR").getD defaultCacheDirectory))

/-- The directory, if it is there now. -/
def makeCache (environment : Environment) (fs : FileSystem) : Option Path × FileSystem :=
  let directory := cacheDirectory environment
  match fs.makeDirectories directory with
  | (.ok (), made) => (some directory, made)
  | (.error _, left) => (none, left)

namespace Startup

def ofOptions (environment : Environment) (terminal : Bool) (o : Options) : Startup :=
  match o.mode with
  | some .stdio => .serve .stdio false
  | some .http => .serve (.http o.host o.port) false
  | none =>
    if (environment.nonempty? "MCP_STDIO").isSome || !terminal then .serve .stdio true
    else .serve (.http o.host o.port) true

def ofWords (environment : Environment) (terminal : Bool) (words : List String) : Startup :=
  match Options.ofWords words with
  | .ok o => ofOptions environment terminal o
  | .error .help => .help
  | .error (.misuse misuse) => .refuse misuse

def exitCode? : Startup → Option Nat
  | serve _ _ => none
  | help => some 0
  | refuse _ => some 2

/-- A setting in a message; one without a value is an empty list. -/
def settingText {α : Type} [ToString α] (setting : Option α) : String :=
  (setting.map toString).getD "[]"

/-- The line for the standard error stream; help has none. -/
def notice (program : String) : Startup → String
  | serve .stdio false => "DEM Tiles MCP Server starting in STDIO mode"
  | serve .stdio true => "DEM Tiles MCP Server starting in STDIO mode (auto-detected)"
  | serve (.http host port) _ =>
    s!"DEM Tiles MCP Server starting in HTTP mode on {settingText host}:{settingText port}"
  | help => ""
  | refuse misuse => s!"{program}: error: {misuse.message}"

end Startup

-- ---------------------------------------------------------------------------
-- Help
-- ---------------------------------------------------------------------------

def usage (program : String) : String :=
  s!"usage: {program} [-h] [--host HOST] [--port PORT] [\x7bstdio,http\x7d]"

def helpText (program : String) : String :=
  "\n".intercalate [usage program, "", "DEM Tiles MCP Server", "", "positional arguments:",
    "  \x7bstdio,http\x7d  Transport mode (stdio for Claude Desktop, http for API)", "",
    "options:",
    "  -h, --help    show this help message and exit",
    "  --host HOST   Host for HTTP mode (default: localhost)",
    "  --port PORT   Port for HTTP mode (default: 8004)"]

end TerrainTiles.CommandLine
