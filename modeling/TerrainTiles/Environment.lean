import TerrainTiles.Files.Path
import TerrainTiles.Text.Blank

/-!
# The environment

Variables with text values. A path that starts with a tilde for the user's own
home is expanded with `HOME`; another user's home is left alone.
-/

namespace TerrainTiles

abbrev Environment := List (String × String)

namespace Environment

def get? (environment : Environment) (name : String) : Option String := environment.lookup name

def nonempty? (environment : Environment) (name : String) : Option String :=
  (environment.get? name).filter (· ≠ "")

def expandHome (environment : Environment) (path : String) : String :=
  match path.toList, environment.get? "HOME" with
  | '~' :: rest, some home =>
    if rest = [] ∨ rest.head? = some '/' then
      let expanded := Text.dropTrailing (· = '/') home.toList ++ rest
      if expanded = [] then "/" else String.ofList expanded
    else path
  | _, _ => path

end Environment

end TerrainTiles
